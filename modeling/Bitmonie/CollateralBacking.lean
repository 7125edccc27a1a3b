import Bitmonie.ActivePayout
import Bitmonie.CollateralRelease
import Bitmonie.Collection

/-! What backs the collateral of an activated loan: the inflow that was matched to its
payment request. Nothing compares what was received with what was expected, so the inflow
holds what some delivery reported for the payment hash, and no more is known of it. -/
namespace Bitmonie.CollateralBacking
open LoanStatusService LoansService PaymentRequestsService InflowsService LoanExpiryWorker
  LiquidationMonitor OpsLoansService CollateralRelease DisbursementsService BlinkWebhook
  ActivePayout PayoutRules

/-- A collection stores its row and credits it in two calls of their own. -/
inductive Operation where
  | checkoutLoan (user : User) (dto : CheckoutLoanDto)
  | collateralWebhook (ownAccount : String) (parsed : Option BlinkWebhookPayload)
  | upsertInflow (row : Inflow)
  | creditInflow (params : CreditParams)
  | releaseForLoan (loanId : Nat)
  | cancelLoan (userId loanId : Nat)
  | runExpiryCycle (rows : RowOrder ExpiredLoanRow)
  | runLiquidationCycle (sellOf : String → Option Decimal) (sendEmail : Bool)
      (rows : RowOrder ActiveLoanRow)
  | restoreFromBadLiquidation (loanId : Nat)

def storeInflow (row : Inflow) : Action Unit :=
  commit (.createInflow row.providerReference) (fun _ => true) fun _ w =>
    .ok ((), (upsertInflow row w).2)

def procedure (tid : Nat) : Operation → Action Unit
  | .checkoutLoan user dto => (checkoutLoan user dto).bind fun _ => .pure ()
  | .collateralWebhook ownAccount parsed =>
    (processVerified tid ownAccount parsed).bind fun _ => .pure ()
  | .upsertInflow row => storeInflow row
  | .creditInflow params => (creditInflow tid params).bind fun _ => .pure ()
  | .releaseForLoan loanId => (releaseForLoan tid loanId).bind fun _ => .pure ()
  | .cancelLoan userId loanId => cancelLoan userId loanId
  | .runExpiryCycle rows => runExpiryCycle rows.order
  | .runLiquidationCycle sellOf sendEmail rows => runLiquidationCycle tid sellOf sendEmail rows.order
  | .restoreFromBadLiquidation loanId => restoreFromBadLiquidation loanId

/-- Every amount that the call reports under a reference is a `reported` one. -/
def Reports (reported : String → ℚ → Prop) : Operation → Prop
  | .collateralWebhook _ (some payload) => ∀ paymentHash,
      (payload.paymentHash.orElse fun _ => payload.txHash) = some paymentHash →
        reported paymentHash payload.settlementAmount
  | .upsertInflow row => reported row.providerReference row.amount
  | _ => True

def Matched (loanId : Nat) (w : World) : Prop :=
  ∃ (id : Nat) (request : PaymentRequest) (inflowId : Nat),
    w.paymentRequests[id]? = some request ∧ request.sourceType = .loan ∧
      request.sourceId = loanId ∧ request.inflowId = some inflowId

structure Backed (reported : String → ℚ → Prop) (w : World) : Prop where
  sized : ∀ (id : Nat) (request : PaymentRequest), w.paymentRequests[id]? = some request →
    ∃ loan : Loan, w.loans[request.sourceId]? = some loan ∧
      loan.collateralAmountSat = request.expectedAmount
  cached : ∀ (receivingAddress : String) (id : Nat), w.pendingRequest receivingAddress = some id →
    ∃ request : PaymentRequest, w.paymentRequests[id]? = some request ∧
      request.receivingAddress = receivingAddress
  paid : ∀ (id : Nat) (request : PaymentRequest) (inflowId : Nat),
    w.paymentRequests[id]? = some request → request.inflowId = some inflowId →
      ∃ inflow : Inflow, w.inflows[inflowId]? = some inflow ∧
        inflow.providerReference = request.receivingAddress
  received : ∀ (id : Nat) (inflow : Inflow), w.inflows[id]? = some inflow →
    reported inflow.providerReference inflow.amount
  activated : ∀ (loanId : Nat) (loan : Loan), w.loans[loanId]? = some loan →
    loan.collateralReceivedAt ≠ none → Matched loanId w

def terms (request : PaymentRequest) : SourceType × Nat × String × Nat :=
  (request.sourceType, request.sourceId, request.receivingAddress, request.expectedAmount)

def receipt (inflow : Inflow) : String × ℚ := (inflow.providerReference, inflow.amount)

/-- Rows are added, and what they ask for and hold does not change. -/
structure Grows (s t : World) : Prop where
  persists : Persists s t
  loans : s.loans.map (·.collateralAmountSat) <+: t.loans.map (·.collateralAmountSat)
  requests : s.paymentRequests.map terms <+: t.paymentRequests.map terms
  inflows : s.inflows.map receipt <+: t.inflows.map receipt
  matched : ∀ loanId, Matched loanId s → Matched loanId t

section Rows
variable {α β : Type} {view : α → β} {rows rows' : List α} {id : Nat} {row : α}

theorem found_of_prefix (kept : rows.map view <+: rows'.map view) (found : rows[id]? = some row) :
    ∃ row', rows'[id]? = some row' ∧ view row' = view row := by
  obtain ⟨added, whole⟩ := kept
  have seen : (rows.map view)[id]? = some (view row) := by simp [found]
  have later : (rows'.map view)[id]? = some (view row) := by
    rw [← whole, List.getElem?_append_left (List.getElem?_eq_some_iff.mp seen).1, seen]
  exact Option.map_eq_some_iff.mp (List.getElem?_map.symm.trans later)

theorem map_set_of_view {after : α} (found : rows[id]? = some row) (same : view after = view row) :
    (rows.set id after).map view = rows.map view := by
  apply List.ext_getElem?
  intro other
  rw [List.getElem?_map, List.getElem?_map]
  by_cases here : other = id
  · rw [here, getElem?_set_of_eq found, found, Option.map_some, Option.map_some, same]
  · rw [List.getElem?_set_ne (Ne.symm here)]

theorem map_concat_of_view (rows : List α) (row : α) :
    rows.map view <+: (rows ++ [row]).map view := by
  rw [List.map_append]
  exact List.prefix_append ..

end Rows

theorem Grows.refl (w : World) : Grows w w :=
  ⟨Persists.refl w, List.prefix_rfl, List.prefix_rfl, List.prefix_rfl, fun _ matched => matched⟩

theorem Grows.trans {r s t : World} (first : Grows r s) (second : Grows s t) : Grows r t where
  persists := first.persists.trans second.persists
  loans := first.loans.trans second.loans
  requests := first.requests.trans second.requests
  inflows := first.inflows.trans second.inflows
  matched loanId matched := second.matched loanId (first.matched loanId matched)

/-- Everyone keeps the invariant, and relies on no more than that the tables grow. -/
def backing (reported : String → ℚ → Prop) : Discipline World Answer Access where
  inv := Backed reported
  allowed _ _ _ := True
  fresh _ _ := True
  rely _ := Grows
  guar _ _ _ := Grows

theorem backing_sound (reported : String → ℚ → Prop) : (backing reported).Sound where
  refl _ := Grows.refl
  trans _ _ _ _ := Grows.trans
  compatible _ _ _ _ _ _ _ _ grows := grows
  fresh _ _ _ _ _ := trivial

abbrev contract (reported : String → ℚ → Prop) (tid : Nat) : Contract World Answer Access :=
  (backing reported).contract tid

def collateral (loan : Loan) : Nat × Option Time :=
  (loan.collateralAmountSat, loan.collateralReceivedAt)

def booking (request : PaymentRequest) : (SourceType × Nat × String × Nat) × Option Nat :=
  (terms request, request.inflowId)

/-- A step that the invariant does not see. -/
structure Unseen (s t : World) : Prop where
  persists : Persists s t
  loans : t.loans.map collateral = s.loans.map collateral
  requests : t.paymentRequests.map booking = s.paymentRequests.map booking
  inflows : t.inflows.map receipt = s.inflows.map receipt
  pending : ∀ receivingAddress id, t.pendingRequest receivingAddress = some id →
    s.pendingRequest receivingAddress = some id

section Steps
variable {reported : String → ℚ → Prop} {s t w : World}

theorem map_fst_of_map {α β γ : Type} {rows rows' : List α} {view : α → β × γ}
    (same : rows'.map view = rows.map view) :
    (rows.map fun row => (view row).1) <+: rows'.map fun row => (view row).1 := by
  have first : (rows'.map view).map Prod.fst = (rows.map view).map Prod.fst := by rw [same]
  rw [List.map_map, List.map_map] at first
  exact ⟨[], by simpa [Function.comp_def] using first.symm⟩

theorem Unseen.grows (unseen : Unseen s t) : Grows s t where
  persists := unseen.persists
  loans := map_fst_of_map unseen.loans
  requests := map_fst_of_map unseen.requests
  inflows := ⟨[], by simpa using unseen.inflows.symm⟩
  matched loanId matched := by
    obtain ⟨id, request, inflowId, found, kind, source, paid⟩ := matched
    obtain ⟨request', found', same⟩ := found_of_prefix ⟨[], by simpa using unseen.requests.symm⟩ found
    simp only [booking, terms, Prod.mk.injEq] at same
    obtain ⟨⟨kind', source', _, _⟩, paid'⟩ := same
    exact ⟨id, request', inflowId, found', kind'.trans kind, source'.trans source, paid'.trans paid⟩

theorem Backed.unseen (backed : Backed reported s) (unseen : Unseen s t) : Backed reported t := by
  have loans : t.loans.map collateral <+: s.loans.map collateral := ⟨[], by simpa using unseen.loans⟩
  have requests : t.paymentRequests.map booking <+: s.paymentRequests.map booking :=
    ⟨[], by simpa using unseen.requests⟩
  have inflows : t.inflows.map receipt <+: s.inflows.map receipt :=
    ⟨[], by simpa using unseen.inflows⟩
  have grows := unseen.grows
  refine ⟨fun id request found => ?_, fun address id cached => ?_, fun id request inflowId found paid => ?_,
    fun id inflow found => ?_, fun loanId loan found received => ?_⟩
  · obtain ⟨before, present, same⟩ := found_of_prefix requests found
    simp only [booking, terms, Prod.mk.injEq] at same
    obtain ⟨loan, there, sized⟩ := backed.sized id before present
    obtain ⟨loan', there', sized'⟩ := found_of_prefix grows.loans there
    rw [← same.1.2.1, ← same.1.2.2.2]
    exact ⟨loan', there', sized'.trans sized⟩
  · obtain ⟨request, present, address'⟩ := backed.cached address id (unseen.pending address id cached)
    obtain ⟨request', present', same⟩ := found_of_prefix grows.requests present
    simp only [terms, Prod.mk.injEq] at same
    exact ⟨request', present', same.2.2.1.trans address'⟩
  · obtain ⟨before, present, same⟩ := found_of_prefix requests found
    simp only [booking, terms, Prod.mk.injEq] at same
    obtain ⟨inflow, there, reference⟩ := backed.paid id before inflowId present (same.2.trans paid)
    obtain ⟨inflow', there', same'⟩ := found_of_prefix grows.inflows there
    simp only [receipt, Prod.mk.injEq] at same'
    exact ⟨inflow', there', same'.1.trans (reference.trans same.1.2.2.1)⟩
  · obtain ⟨before, present, same⟩ := found_of_prefix inflows found
    simp only [receipt, Prod.mk.injEq] at same
    rw [← same.1, ← same.2]
    exact backed.received id before present
  · obtain ⟨before, present, same⟩ := found_of_prefix loans found
    simp only [collateral, Prod.mk.injEq] at same
    exact grows.matched loanId (backed.activated loanId before present (same.2 ▸ received))

/-- A new loan has received nothing. -/
theorem Backed.create_loan {row : Loan} {logs : List LoanStatusLog} (backed : Backed reported w)
    (unreceived : row.collateralReceivedAt = none) :
    let t := { w with loans := w.loans ++ [row], statusLogs := logs }
    Backed reported t ∧ Grows w t := by
  refine ⟨⟨fun id request found => ?_, backed.cached, backed.paid, backed.received,
    fun loanId loan found received => ?_⟩,
    ⟨.of_eq rfl rfl, map_concat_of_view _ _, List.prefix_rfl, List.prefix_rfl, fun _ matched => matched⟩⟩
  · obtain ⟨loan, there, sized⟩ := backed.sized id request found
    exact ⟨loan, concat_of_row there, sized⟩
  · rcases row_of_concat found with old | ⟨_, rfl⟩
    · exact backed.activated loanId loan old received
    · exact absurd unreceived received

/-- A new request asks for the collateral of its loan. -/
theorem Backed.create_request {row : PaymentRequest} (backed : Backed reported w)
    (unpaid : row.inflowId = none)
    (sized : ∃ loan : Loan, w.loans[row.sourceId]? = some loan ∧
      loan.collateralAmountSat = row.expectedAmount) :
    let t := { w with paymentRequests := w.paymentRequests ++ [row] }
    Backed reported t ∧ Grows w t := by
  have matched (loanId : Nat) (before : Matched loanId w) :
      Matched loanId { w with paymentRequests := w.paymentRequests ++ [row] } := by
    obtain ⟨id, request, inflowId, found, rest⟩ := before
    exact ⟨id, request, inflowId, concat_of_row found, rest⟩
  refine ⟨⟨fun id request found => ?_, fun address id cached => ?_,
    fun id request inflowId found paid => ?_, backed.received,
    fun loanId loan found received => matched loanId (backed.activated loanId loan found received)⟩,
    ⟨.of_eq rfl rfl, List.prefix_rfl, map_concat_of_view _ _, List.prefix_rfl, matched⟩⟩
  · rcases row_of_concat found with old | ⟨_, rfl⟩
    · exact backed.sized id request old
    · exact sized
  · obtain ⟨request, present, same⟩ := backed.cached address id cached
    exact ⟨request, concat_of_row present, same⟩
  · rcases row_of_concat found with old | ⟨_, rfl⟩
    · exact backed.paid id request inflowId old paid
    · rw [unpaid] at paid
      cases paid

/-- The cache entry of an address is a request for it. -/
theorem Backed.cache {receivingAddress : String} {id : Nat} {request : PaymentRequest}
    (backed : Backed reported w) (found : w.paymentRequests[id]? = some request)
    (address : request.receivingAddress = receivingAddress) :
    let t := { w with pendingRequest := Function.update w.pendingRequest receivingAddress (some id) }
    Backed reported t ∧ Grows w t := by
  refine ⟨⟨backed.sized, fun other id' cached => ?_, backed.paid, backed.received, backed.activated⟩,
    ⟨.of_eq rfl rfl, List.prefix_rfl, List.prefix_rfl, List.prefix_rfl, fun _ matched => matched⟩⟩
  by_cases same : other = receivingAddress
  · subst same
    obtain rfl : id = id' := by simpa using cached
    exact ⟨request, found, address⟩
  · exact backed.cached other id' (by simpa [same] using cached)

/-- A new inflow holds what was reported. -/
theorem Backed.create_inflow {row : Inflow} (backed : Backed reported w)
    (reports : reported row.providerReference row.amount) :
    let t := { w with inflows := w.inflows ++ [row] }
    Backed reported t ∧ Grows w t := by
  refine ⟨⟨backed.sized, backed.cached, fun id request inflowId found paid => ?_,
    fun id inflow found => ?_, backed.activated⟩,
    ⟨.of_eq rfl rfl, List.prefix_rfl, List.prefix_rfl, map_concat_of_view _ _, fun _ matched => matched⟩⟩
  · obtain ⟨inflow, there, reference⟩ := backed.paid id request inflowId found paid
    exact ⟨inflow, concat_of_row there, reference⟩
  · rcases row_of_concat found with old | ⟨_, rfl⟩
    · exact backed.received id inflow old
    · exact reports

/-- The request is paid by an inflow of its payment hash. -/
theorem Backed.pay {id inflowId : Nat} {stored : PaymentRequest} {inflow : Inflow} {now : Time}
    (backed : Backed reported w) (found : w.paymentRequests[id]? = some stored)
    (there : w.inflows[inflowId]? = some inflow)
    (reference : inflow.providerReference = stored.receivingAddress) :
    let t := { w with
      paymentRequests := w.paymentRequests.set id (paidRequest inflowId now stored) }
    Backed reported t ∧ Grows w t := by
  let t := { w with paymentRequests := w.paymentRequests.set id (paidRequest inflowId now stored) }
  have paid : t.paymentRequests[id]? = some (paidRequest inflowId now stored) :=
    getElem?_set_of_eq found
  have was (other : Nat) (request : PaymentRequest) (present : t.paymentRequests[other]? = some request) :
      request = paidRequest inflowId now stored ∧ other = id ∨
        w.paymentRequests[other]? = some request := by
    by_cases same : id = other
    · subst same
      exact .inl ⟨(Option.some.inj (paid.symm.trans present)).symm, rfl⟩
    · exact .inr ((List.getElem?_set_ne same).symm.trans present)
  have matched (loanId : Nat) (before : Matched loanId w) : Matched loanId t := by
    obtain ⟨other, request, earlier, present, kind, source, has⟩ := before
    by_cases same : id = other
    · subst same
      obtain rfl := Option.some.inj (found.symm.trans present)
      exact ⟨id, _, inflowId, paid, kind, source, rfl⟩
    · exact ⟨other, request, earlier, (List.getElem?_set_ne same).trans present, kind, source, has⟩
  have rows : t.paymentRequests.map terms = w.paymentRequests.map terms := map_set_of_view found rfl
  have requests : w.paymentRequests.map terms <+: t.paymentRequests.map terms := ⟨[], by simp [rows]⟩
  refine ⟨⟨fun other request present => ?_, fun address other cached => ?_,
    fun other request chosen present has => ?_, backed.received,
    fun loanId loan present received => matched loanId (backed.activated loanId loan present received)⟩,
    ⟨.of_eq rfl rfl, List.prefix_rfl, requests, List.prefix_rfl, matched⟩⟩
  · rcases was other request present with ⟨rfl, _⟩ | old
    · exact backed.sized id stored found
    · exact backed.sized other request old
  · obtain ⟨request, present, same⟩ := backed.cached address other cached
    obtain ⟨request', present', same'⟩ := found_of_prefix requests present
    simp only [terms, Prod.mk.injEq] at same'
    exact ⟨request', present', same'.2.2.1.trans same⟩
  · rcases was other request present with ⟨rfl, _⟩ | old
    · obtain rfl : inflowId = chosen := by simpa [paidRequest] using has
      exact ⟨inflow, there, reference⟩
    · exact backed.paid other request chosen old has

/-- The transaction that matches an inflow. -/
theorem writeMatch_backed {id inflowId : Nat} {request : PaymentRequest} {now : Time}
    (backed : Backed reported s) (done : writeMatch id request inflowId now s = .ok t)
    (address : ∀ stored, s.paymentRequests[id]? = some stored → terms stored = terms request)
    (reference : ∀ inflow, s.inflows[inflowId]? = some inflow →
      inflow.providerReference = request.receivingAddress) :
    Backed reported t ∧ Grows s t ∧ (request.sourceType = .loan → Matched request.sourceId t) := by
  obtain ⟨stored, inflow, found, there, rfl⟩ := writeMatch_ok done
  have same := address stored found
  simp only [terms, Prod.mk.injEq] at same
  have unseen : Unseen s { s with inflows := s.inflows.set inflowId (matchedInflow request now inflow) } :=
    ⟨.of_eq rfl rfl, rfl, rfl, map_set_of_view there rfl, fun _ _ cached => cached⟩
  obtain ⟨backed', grows⟩ := @Backed.pay reported _ id inflowId stored
    (matchedInflow request now inflow) now (backed.unseen unseen) found (getElem?_set_of_eq there)
    ((reference inflow there).trans same.2.2.1.symm)
  refine ⟨backed', unseen.grows.trans grows, fun kind => ?_⟩
  exact ⟨id, _, inflowId, getElem?_set_of_eq found, same.1.trans kind, same.2.1, rfl⟩

/-- A status write, whatever the row was. -/
theorem updateStatus_collateral {params : TransitionParams} {loans loans' : List Loan}
    (updated : updateStatus params loans = .ok loans') :
    loans'.map collateral = loans.map collateral := by
  unfold updateStatus at updated
  split at updated
  · obtain rfl := Except.ok.inj updated
    rfl
  · obtain ⟨_, _, updated⟩ := bind_ok.mp updated
    split at updated
    · obtain ⟨row, found, rfl⟩ := updateRow_ok.mp updated
      exact map_set_of_view found rfl
    · obtain rfl := Except.ok.inj updated
      rfl

theorem transition_unseen {params : TransitionParams} (done : transition params s = .ok t) :
    Unseen s t := by
  obtain ⟨loans, updated, rfl⟩ := transition_ok done
  exact ⟨.of_eq rfl rfl, updateStatus_collateral updated, rfl, rfl, fun _ _ cached => cached⟩

theorem Unseen.trans {r : World} (first : Unseen r s) (second : Unseen s t) : Unseen r t where
  persists := first.persists.trans second.persists
  loans := second.loans.trans first.loans
  requests := second.requests.trans first.requests
  inflows := second.inflows.trans first.inflows
  pending address id cached := first.pending address id (second.pending address id cached)

/-- Only the loan of a matched request receives its collateral. -/
theorem writeActivation_backed {loanId : Nat} {loan : Loan} {collateralReceivedAt : Time}
    (backed : Backed reported s) (matched : Matched loanId s)
    (done : writeActivation loanId loan collateralReceivedAt s = .ok t) :
    Backed reported t ∧ Grows s t := by
  obtain ⟨loans, received, done⟩ := bind_ok.mp done
  obtain ⟨stored, found, rfl⟩ := updateRow_ok.mp received
  have unseen := transition_unseen done
  let row := { stored with collateralReceivedAt := some collateralReceivedAt }
  have sized : (s.loans.set loanId row).map (·.collateralAmountSat) =
      s.loans.map (·.collateralAmountSat) := map_set_of_view found rfl
  have loans : s.loans.map (·.collateralAmountSat) <+:
      (s.loans.set loanId row).map (·.collateralAmountSat) := ⟨[], by simp [sized]⟩
  have grows : Grows s { s with loans := s.loans.set loanId row } :=
    ⟨.of_eq rfl rfl, loans, List.prefix_rfl, List.prefix_rfl, fun _ matched => matched⟩
  have backed' : Backed reported { s with loans := s.loans.set loanId row } := by
    refine ⟨fun id request present => ?_, backed.cached, backed.paid, backed.received,
      fun other current present has => ?_⟩
    · obtain ⟨before, there, same⟩ := backed.sized id request present
      obtain ⟨after, there', same'⟩ := found_of_prefix loans there
      exact ⟨after, there', same'.trans same⟩
    · by_cases same : loanId = other
      · exact same ▸ matched
      · exact backed.activated other current ((List.getElem?_set_ne same).symm.trans present) has
  exact ⟨backed'.unseen unseen, grows.trans unseen.grows⟩

end Steps

section Meets
variable {reported : String → ℚ → Prop} {tid : Nat} {w : World}

theorem query_backed {f : Answer → World → Except AppError α} {post : α → World → Prop}
    (read : ∀ i t a, Grows w t → Backed reported t → f i t = .ok a → post a t) :
    Keeps (contract reported tid) post (query f) w := by
  apply query_meets
  intro t grows backed i _
  exact ⟨Grows.refl t, trivial, fun _ _ => trivial, fun a done => read i t a grows backed done⟩

theorem commit_backed {label : Access} {enabled : World → Bool}
    {f : Answer → World → Except AppError (α × World)} {post : α → World → Prop}
    (writes : ∀ i s a t, Grows w s → Backed reported s → f i s = .ok (a, t) →
      Backed reported t ∧ Grows s t ∧ post a t) :
    Keeps (contract reported tid) post (commit label enabled f) w := by
  apply commit_meets
  intro s grows backed _ i _
  refine ⟨Grows.refl s, fun _ => trivial, fun _ _ => trivial, fun a t _ done => ?_⟩
  obtain ⟨backed', grows', ends⟩ := writes i s a t grows backed done
  exact ⟨backed', grows', fun _ => ends, fun _ => trivial⟩

/-- A write that the invariant does not see. -/
theorem unseen_backed {label : Access} {enabled : World → Bool}
    {f : Answer → World → Except AppError (α × World)}
    (writes : ∀ i s a t, f i s = .ok (a, t) → Unseen s t) :
    Keeps (contract reported tid) (fun _ _ => True) (commit label enabled f) w :=
  commit_backed fun i s a t _ backed done =>
    ⟨backed.unseen (writes i s a t done), (writes i s a t done).grows, trivial⟩

theorem unseenUnit_backed {label : Access} {enabled : World → Bool}
    {f : Answer → World → Except AppError World} (writes : ∀ i s t, f i s = .ok t → Unseen s t) :
    Keeps (contract reported tid) (fun _ _ => True)
      (commit label enabled fun i w => (f i w).map ((), ·)) w := by
  refine unseen_backed fun i s a t done => ?_
  obtain ⟨v, wrote, -, rfl⟩ := map_pair_ok.mp done
  exact writes i s v wrote

/-- Nothing is known between two procedures. -/
theorem then_backed {p : Action α} {f : α → Action β}
    (first : Keeps (contract reported tid) (fun _ _ => True) p w)
    (rest : ∀ a t, Keeps (contract reported tid) (fun _ _ => True) (f a) t) :
    Keeps (contract reported tid) (fun _ _ => True) (p.bind f) w := by
  rw [Keeps, Proc.meets_bind]
  exact first.imp (fun a t _ => rest a t) fun _ _ h => h

theorem look_backed {f : Answer → World → Except AppError α} :
    Keeps (contract reported tid) (fun _ _ => True) (query f) w :=
  query_backed fun _ _ _ _ _ _ => trivial

/-- An access that writes outside the tables of the invariant. -/
theorem access_backed {label : Access} {enabled : World → Bool}
    {f : Answer → World → Except AppError α × World} (writes : ∀ i s, Unseen s (f i s).2) :
    Keeps (contract reported tid) (fun _ _ => True) (.access label enabled f) w := by
  rw [Keeps, Proc.meets_access]
  intro s _ backed _ i _
  refine ⟨Backed.unseen backed (writes i s), (writes i s).grows, ?_⟩
  unfold Proc.outcome
  split <;> trivial

theorem Unseen.of_eq {s t : World} (outflows : t.outflows = s.outflows)
    (transfers : t.transfers = s.transfers) (loans : t.loans = s.loans)
    (requests : t.paymentRequests = s.paymentRequests) (inflows : t.inflows = s.inflows)
    (pending : t.pendingRequest = s.pendingRequest) : Unseen s t where
  persists := .of_eq outflows transfers
  loans := by rw [loans]
  requests := by rw [requests]
  inflows := by rw [inflows]
  pending address id cached := by rwa [← pending]

theorem cancelLoan_backed (userId loanId : Nat) :
    Keeps (contract reported tid) (fun _ _ => True) (cancelLoan userId loanId) w :=
  then_backed look_backed fun _ _ => unseenUnit_backed fun _ _ _ done => transition_unseen done

theorem restoreFromBadLiquidation_backed (loanId : Nat) :
    Keeps (contract reported tid) (fun _ _ => True) (restoreFromBadLiquidation loanId) w := by
  refine then_backed look_backed fun loan t => ?_
  split
  · trivial
  split
  · trivial
  refine unseenUnit_backed fun _ s u done => ?_
  obtain ⟨loans, moved, done⟩ := bind_ok.mp done
  obtain rfl := Except.ok.inj done
  obtain ⟨stored, found, rfl⟩ := updateRow_ok.mp moved
  exact ⟨.of_eq rfl rfl, map_set_of_view found rfl, rfl, rfl, fun _ _ cached => cached⟩

theorem pending_deleted (receivingAddress : String) (s : World) : Unseen s
    { s with pendingRequest := Function.update s.pendingRequest receivingAddress none } where
  persists := .of_eq rfl rfl
  loans := rfl
  requests := rfl
  inflows := rfl
  pending address id cached := by
    by_cases same : address = receivingAddress
    · simp [same] at cached
    · simpa [same] using cached

theorem runExpiryCycle_backed (rows : RowOrder ExpiredLoanRow) :
    Keeps (contract reported tid) (fun _ _ => True) (runExpiryCycle rows.order) w := by
  refine then_backed look_backed fun candidates t => ?_
  have start : (fun _ : World => True) t := trivial
  apply (Proc.meets_each start _).imp (fun _ _ h => h) fun _ _ h => h
  intro row _ u _
  rw [Proc.meets_catching]
  have expires : Keeps (contract reported tid) (fun _ _ => True) (expireLoan row) u := by
    refine then_backed (unseenUnit_backed fun _ s v done => ?_) fun _ _ => unseen_backed ?_
    · obtain ⟨stored, request, log, found, present, rfl⟩ := writeExpiry_ok done
      exact ⟨.of_eq rfl rfl, map_set_of_view found rfl, map_set_of_view present rfl, rfl,
        fun _ _ cached => cached⟩
    · intro _ s _ v done
      obtain ⟨_, rfl⟩ := Prod.mk.inj (Except.ok.inj done)
      exact pending_deleted row.receivingAddress s
  exact expires.imp (fun _ _ _ => trivial) fun _ _ _ => trivial

theorem runLiquidationCycle_backed (sellOf : String → Option Decimal) (sendEmail : Bool)
    (rows : RowOrder ActiveLoanRow) : Keeps (contract reported tid) (fun _ _ => True)
      (runLiquidationCycle tid sellOf sendEmail rows.order) w := by
  apply runLiquidationCycle_meets (fun _ => True) fun _ _ => True
  · exact fun _ _ t _ => Grows.refl t
  · exact fun _ _ _ h => h
  · exact fun _ _ _ _ h => h
  · exact fun _ _ _ => trivial
  · intro _ row _ rate t _
    have seizes : Keeps (contract reported tid) (fun _ _ => True)
        ((liquidateLoan tid row rate).bind fun _ => (swapBtcToUsd row.id).catching fun _ => .pure ())
        t := by
      refine then_backed (unseen_backed fun i s _ u done => ?_) fun _ u => ?_
      · obtain ⟨v, wrote, -, rfl⟩ := map_pair_ok.mp done
        obtain ⟨stored, _, found, _, _, rfl⟩ := writeLiquidation_ok wrote
        exact ⟨.of_eq rfl rfl, map_set_of_view found rfl, rfl, rfl, fun _ _ cached => cached⟩
      · have swaps : Keeps (contract reported tid) (fun _ _ => True) (swapBtcToUsd row.id) u :=
          access_backed fun _ _ => .of_eq rfl rfl rfl rfl rfl rfl
        rw [Keeps, Proc.meets_catching]
        exact swaps.imp (fun _ _ h => h) fun _ _ _ => trivial
    rw [seizeCollateral, Proc.meets_catching]
    exact seizes.imp (fun _ _ h => h) fun _ _ _ => trivial
  · trivial

theorem writeCredit_unseen {params : CreditParams} {loan : Loan} {credit : Credit}
    {createdAt : Time} {s t : World} (done : writeCredit params loan credit createdAt s = .ok t) :
    Unseen s t := by
  obtain ⟨repayments, _, done⟩ := bind_ok.mp done
  obtain ⟨inflows, matched, done⟩ := bind_ok.mp done
  obtain ⟨loans, closed, done⟩ := bind_ok.mp done
  obtain ⟨inflow, there, rfl⟩ := updateRow_ok.mp matched
  have rows : loans.map collateral = s.loans.map collateral := by
    unfold closeLoan at closed
    split at closed
    · obtain ⟨stored, found, rfl⟩ := updateRow_ok.mp closed
      exact map_set_of_view found rfl
    · obtain rfl := Except.ok.inj closed
      rfl
  refine Unseen.trans ?_ (transition_unseen done)
  exact ⟨.of_eq rfl rfl, rows, rfl, map_set_of_view there rfl, fun _ _ cached => cached⟩

theorem creditInflow_backed (params : CreditParams) :
    Keeps (contract reported tid) (fun _ _ => True) (creditInflow tid params) w := by
  have body (t : World) : Keeps (contract reported tid) (fun _ _ => True) (creditBody tid params) t := by
    refine then_backed look_backed fun read u => ?_
    rw [Keeps, Proc.meets_bind]
    cases planCredit params.amountNgn read.2 read.1.1 read.1.2 with
    | error e => trivial
    | ok plan =>
      cases plan with
      | none => trivial
      | some credit =>
        refine then_backed (unseen_backed fun i s _ v done => ?_) fun _ _ => trivial
        obtain ⟨x, wrote, -, rfl⟩ := map_pair_ok.mp done
        exact (writeCredit_unseen wrote).trans (.of_eq rfl rfl rfl rfl rfl rfl)
  have locks : Keeps (contract reported tid) (fun _ _ => True)
      (lockingLoan tid params.loanId (creditBody tid params)) w := by
    have held (s : World) (holders : Nat → Option Nat) : Unseen s { s with rowLock := holders } :=
      .of_eq rfl rfl rfl rfl rfl rfl
    apply lockingLoan_meets
    · intro t _ backed _ i _
      exact ⟨Grows.refl t, trivial, trivial, fun _ _ =>
        ⟨Backed.unseen backed (held t _), (held t _).grows, body _⟩⟩
    · intro _ t _ backed i _
      exact ⟨fun _ _ => ⟨Backed.unseen backed (held t _), (held t _).grows, trivial⟩,
        fun _ _ => ⟨Backed.unseen backed (held t _), (held t _).grows, trivial⟩⟩
  rw [creditInflow, Keeps, Proc.meets_bind]
  cases floorCheck params with
  | error e => trivial
  | ok =>
    refine then_backed locks fun done t => ?_
    cases done.2 with
    | none => trivial
    | some receipt => exact then_backed look_backed fun _ _ => trivial

theorem writeRelease_unseen {loanId userId : Nat} {reference : String} {now : Time} {s t : World}
    (done : writeRelease loanId userId reference now s = .ok t) : Unseen s t := by
  obtain ⟨loan, found, -, done⟩ := writeRelease_done done
  have stamped : Unseen s { s with loans := s.loans.set loanId { loan with
      collateralReleasedAt := some now, collateralReleaseReference := some reference } } :=
    ⟨.of_eq rfl rfl, map_set_of_view found rfl, rfl, rfl, fun _ _ cached => cached⟩
  exact stamped.trans (transition_unseen done)

theorem releaseLocked_backed (loanId : Nat) :
    Keeps (contract reported tid) (fun _ _ => True) (releaseLocked loanId) w := by
  have alerts (t : World) (alerted : World → Nat → Bool) : Keeps (contract reported tid)
      (fun _ _ => True) (commit .redis (fun _ => true) fun _ w =>
        .ok ((), { w with releaseAlerted := alerted w })) t := by
    refine unseen_backed fun _ s _ u done => ?_
    obtain ⟨_, rfl⟩ := Prod.mk.inj (Except.ok.inj done)
    exact .of_eq rfl rfl rfl rfl rfl rfl
  refine then_backed look_backed fun found t => ?_
  split
  · trivial
  rename_i address _
  have sends : Keeps (contract reported tid) (fun _ _ => True)
      (sendToLightningAddress loanId address) t := by
    refine access_backed fun i s => ?_
    split
    · exact .of_eq rfl rfl rfl rfl rfl rfl
    · exact .of_eq rfl rfl rfl rfl rfl rfl
  rw [Keeps, Proc.meets_bind, Proc.meets_attempt]
  apply Proc.Meets.imp sends
  · intro reference u _
    rw [Proc.meets_catching]
    have stamps : Keeps (contract reported tid) (fun _ _ => True)
        ((stampRelease loanId ((found.map (·.userId)).getD 0) reference).bind fun _ =>
          (clearAlert loanId).bind fun _ => (query fun _ _ => .ok ()).bind fun _ =>
            .pure (ReleaseResult.released reference)) u :=
      then_backed (unseenUnit_backed fun _ _ _ done => writeRelease_unseen done) fun _ v =>
        then_backed (alerts v _) fun _ _ => then_backed look_backed fun _ _ => trivial
    exact stamps.imp (fun _ _ h => h) fun _ _ _ => trivial
  · exact fun _ u _ => then_backed (alerts u _) fun _ _ => trivial

theorem releaseForLoan_backed (loanId : Nat) :
    Keeps (contract reported tid) (fun _ _ => True) (releaseForLoan tid loanId) w := by
  have locks : Keeps (contract reported tid) (fun _ _ => True) (acquireLock tid loanId) w := by
    refine access_backed fun i s => ?_
    split
    · exact .of_eq rfl rfl rfl rfl rfl rfl
    split
    · exact .of_eq rfl rfl rfl rfl rfl rfl
    dsimp only
    split <;> exact .of_eq rfl rfl rfl rfl rfl rfl
  have unlocks (t : World) :
      Keeps (contract reported tid) (fun _ _ => True) (deleteLock tid loanId) t :=
    access_backed fun _ _ => .of_eq rfl rfl rfl rfl rfl rfl
  refine then_backed locks fun acquired t => ?_
  split
  · rw [Keeps, Proc.meets_finishing]
    exact Proc.Meets.imp (releaseLocked_backed loanId)
      (fun _ u _ => (unlocks u).imp (fun _ _ h => h) fun _ _ h => h)
      fun _ u _ => (unlocks u).imp (fun _ _ h => h) fun _ _ h => h
  · trivial

def Sized (collateralSat loanId : Nat) (w : World) : Prop :=
  ∃ loan : Loan, w.loans[loanId]? = some loan ∧ loan.collateralAmountSat = collateralSat

theorem Sized.mono {collateralSat loanId : Nat} {s t : World} (grows : Grows s t)
    (sized : Sized collateralSat loanId s) : Sized collateralSat loanId t := by
  obtain ⟨loan, there, same⟩ := sized
  obtain ⟨loan', there', same'⟩ := found_of_prefix grows.loans there
  exact ⟨loan', there', same'.trans same⟩

theorem createLoan_backed {user : User} {dto : CheckoutLoanDto} {accountId : Nat}
    {quote : CalculatorService.CalculatorResult} : Keeps (contract reported tid)
      (Sized quote.collateralAmountSat) (createLoan user dto accountId quote) w := by
  rw [Keeps, createLoan, Proc.meets_catching]
  have inserts : Keeps (contract reported tid) (Sized quote.collateralAmountSat)
      (commit (.createLoan user.id) (fun _ => true) fun i w =>
        writeLoan user (loanRow user dto accountId quote i.now) w) w := by
    refine commit_backed fun i s loanId t _ backed done => ?_
    obtain ⟨rfl, _, rfl⟩ := writeLoan_ok done
    obtain ⟨backed', grows⟩ := @Backed.create_loan reported s
      (loanRow user dto accountId quote i.now) _ backed rfl
    exact ⟨backed', grows, _, List.getElem?_concat_length, rfl⟩
  exact inserts.imp (fun _ _ sized => sized) fun _ _ _ => trivial

def Addressed (receivingAddress : String) (id : Nat) (w : World) : Prop :=
  ∃ request : PaymentRequest, w.paymentRequests[id]? = some request ∧
    request.receivingAddress = receivingAddress

theorem createRequest_backed {params : CreatePaymentRequestParams}
    (sized : Sized params.collateralSat params.sourceId w) :
    Keeps (contract reported tid) (fun _ _ => True) (create params) w := by
  refine create_meets (fun invoice => Addressed invoice.receivingAddress) ?_ ?_ ?_ ?_ sized
  · exact fun _ t => Grows.refl t
  · exact fun s t => Sized.mono
  · intro invoice t sized
    refine commit_backed fun i s id u grows backed done => ?_
    obtain ⟨rfl, rfl⟩ := Prod.mk.inj (Except.ok.inj done)
    obtain ⟨backed', grows'⟩ := @Backed.create_request reported s (requestRow params invoice)
      backed rfl (sized.mono grows)
    exact ⟨backed', grows', _, List.getElem?_concat_length, rfl⟩
  · rintro invoice id t ⟨request, found, address⟩
    refine commit_backed fun i s _ u grows backed done => ?_
    obtain ⟨_, rfl⟩ := Prod.mk.inj (Except.ok.inj done)
    obtain ⟨request', found', same⟩ := found_of_prefix grows.requests found
    simp only [terms, Prod.mk.injEq] at same
    obtain ⟨backed', grows'⟩ := backed.cache found' (same.2.2.1.trans address)
    exact ⟨backed', grows', trivial⟩

theorem checkoutLoan_backed (user : User) (dto : CheckoutLoanDto) :
    Keeps (contract reported tid) (fun _ _ => True) (checkoutLoan user dto) w :=
  checkoutLoan_meets (fun _ t => Grows.refl t) (fun _ t => Grows.refl t)
    (fun _ _ _ => createLoan_backed) fun _ _ _ sized => createRequest_backed sized

theorem apart_unseen {s t : World} (apart : Apart s t) : Unseen s t := by
  obtain ⟨persists, _, _, _, _, rfl⟩ := apart
  exact ⟨persists, rfl, rfl, rfl, fun _ _ cached => cached⟩

theorem rules (reported : String → ℚ → Prop) (tid : Nat) :
    Rules tid (contract reported tid) (fun _ _ => True) (fun _ _ => True) fun _ _ => True := by
  refine .of_apart tid (fun _ _ grows => grows.persists) (fun _ _ _ _ grows => grows.persists)
    (fun _ _ s => Grows.refl s) fun label i s t apart backed => ?_
  exact ⟨Backed.unseen backed (apart_unseen apart), (apart_unseen apart).grows⟩

def Holds (providerReference : String) (inflowId : Nat) (w : World) : Prop :=
  ∃ inflow : Inflow, w.inflows[inflowId]? = some inflow ∧
    inflow.providerReference = providerReference

theorem Holds.mono {providerReference : String} {inflowId : Nat} {s t : World} (grows : Grows s t)
    (holds : Holds providerReference inflowId s) : Holds providerReference inflowId t := by
  obtain ⟨inflow, there, same⟩ := holds
  obtain ⟨inflow', there', same'⟩ := found_of_prefix grows.inflows there
  simp only [receipt, Prod.mk.injEq] at same'
  exact ⟨inflow', there', same'.1.trans same⟩

/-- A duplicate is answered with the row that is stored under the same hash. -/
theorem createInflow_backed {params : IngestInflowParams}
    (reports : reported params.providerReference params.amount) : Keeps (contract reported tid)
      (fun inflow => Holds params.providerReference inflow.1) (createInflow params) w := by
  rw [Keeps, createInflow, Proc.meets_catching]
  have inserts : Keeps (contract reported tid) (fun inflow => Holds params.providerReference inflow.1)
      (commit (.createInflow params.providerReference) (fun _ => true) fun i w =>
        if w.inflows.any fun inflow => inflow.providerReference = params.providerReference then
          .error .uniqueViolation
        else .ok ((w.inflows.length, ingestedRow params i.now),
          { w with inflows := w.inflows ++ [ingestedRow params i.now] })) w := by
    refine commit_backed fun i s _ t _ backed done => ?_
    obtain ⟨-, done⟩ := unless_ok.mp done
    obtain ⟨rfl, rfl⟩ := Prod.mk.inj (Except.ok.inj done)
    obtain ⟨backed', grows⟩ := @Backed.create_inflow reported s (ingestedRow params i.now) backed reports
    exact ⟨backed', grows, _, List.getElem?_concat_length, rfl⟩
  apply inserts.imp fun _ _ holds => holds
  intro e t _
  split
  · refine query_backed fun _ u inflow _ _ read => ?_
    unfold InflowsService.findInflow at read
    split at read
    · cases read
    · rename_i row found
      obtain rfl := Except.ok.inj read
      obtain ⟨there, same⟩ := findRow_some found
      exact ⟨row.2, there, of_decide_eq_true same⟩
  · trivial

/-- The request that was found by an address is one of it, whether the cache or the table
was asked. -/
def Asked (receivingAddress : String) (row : Nat × PaymentRequest) (w : World) : Prop :=
  row.2.receivingAddress = receivingAddress ∧
    ∃ stored : PaymentRequest, w.paymentRequests[row.1]? = some stored ∧ terms stored = terms row.2

theorem Asked.mono {receivingAddress : String} {row : Nat × PaymentRequest} {s t : World}
    (grows : Grows s t) (asked : Asked receivingAddress row s) :
    Asked receivingAddress row t := by
  obtain ⟨address, stored, found, same⟩ := asked
  obtain ⟨stored', found', same'⟩ := found_of_prefix grows.requests found
  exact ⟨address, stored', found', same'.trans same⟩

theorem findPending_backed {receivingAddress : String} : Keeps (contract reported tid)
    (fun found t => ∀ row, found = some row → Asked receivingAddress row t)
    (findPendingByReceivingAddress receivingAddress) w := by
  rw [Keeps, findPendingByReceivingAddress, Proc.meets_bind]
  have asks : Keeps (contract reported tid)
      (fun cachedId t => ∀ id, cachedId = some id → Addressed receivingAddress id t)
      (cachedRequest receivingAddress) w := by
    refine query_backed fun i t cachedId _ backed read id same => ?_
    obtain rfl := Except.ok.inj read
    split at same
    · cases same
    · exact backed.cached receivingAddress id same
  apply asks.imp _ fun _ _ h => h
  intro cachedId t known
  refine query_backed fun _ u found grows _ read row same => ?_
  obtain rfl := Except.ok.inj read
  cases cachedId with
  | some id =>
    obtain ⟨request, present, chosen⟩ := Option.bind_eq_some_iff.mp same
    split at chosen
    · obtain rfl := Option.some.inj chosen
      obtain ⟨before, there, address⟩ := known id rfl
      obtain ⟨after, there', kept⟩ := found_of_prefix grows.requests there
      obtain rfl := Option.some.inj (present.symm.trans there')
      simp only [terms, Prod.mk.injEq] at kept
      exact ⟨kept.2.2.1.trans address, request, present, rfl⟩
    · cases chosen
  | none =>
    obtain ⟨present, chosen⟩ := findRow_some same
    simp only [Bool.and_eq_true, decide_eq_true_eq] at chosen
    exact ⟨chosen.1, row.2, present, rfl⟩

theorem matchInflow_backed {id inflowId : Nat} {request : PaymentRequest}
    (asked : Asked request.receivingAddress (id, request) w)
    (holds : Holds request.receivingAddress inflowId w) : Keeps (contract reported tid)
      (fun _ t => request.sourceType = .loan → Matched request.sourceId t)
      (matchInflow id request inflowId) w := by
  rw [Keeps, matchInflow, Proc.meets_bind]
  have matches_ : Keeps (contract reported tid)
      (fun _ t => request.sourceType = .loan → Matched request.sourceId t)
      (commit (.matchInflow id request.sourceId) (fun _ => true) fun i w =>
        (writeMatch id request inflowId i.now w).map ((), ·)) w := by
    refine commit_backed fun i s _ t grows backed done => ?_
    obtain ⟨v, wrote, -, rfl⟩ := map_pair_ok.mp done
    obtain ⟨_, stored, found, same⟩ := asked.mono grows
    obtain ⟨inflow, there, reference⟩ := holds.mono grows
    refine writeMatch_backed backed wrote (fun other present => ?_) fun other present => ?_
    · obtain rfl := Option.some.inj (found.symm.trans present)
      exact same
    · obtain rfl := Option.some.inj (there.symm.trans present)
      exact reference
  apply matches_.imp _ fun _ _ h => h
  intro _ t matched
  refine commit_backed fun i s _ u grows backed done => ?_
  obtain ⟨_, rfl⟩ := Prod.mk.inj (Except.ok.inj done)
  have deleted := pending_deleted request.receivingAddress s
  exact ⟨backed.unseen deleted, deleted.grows, fun kind =>
    deleted.grows.matched _ (grows.matched _ (matched kind))⟩

theorem ingest_backed {params : IngestInflowParams}
    (same : params.providerReference = params.receivingAddress)
    (reports : reported params.providerReference params.amount) : Keeps (contract reported tid)
      (fun ingested t => ∀ matched, ingested.2 = some matched →
        matched.1.sourceType = .loan → Matched matched.1.sourceId t) (ingest params) w := by
  rw [Keeps, ingest, Proc.meets_bind]
  apply (createInflow_backed reports).imp _ fun _ _ h => h
  intro inflow t holds
  rw [Proc.meets_bind]
  have finds : (findPendingByReceivingAddress params.receivingAddress).Meets (contract reported tid)
      (fun found t => (∀ row, found = some row → Asked params.receivingAddress row t) ∧
        Holds params.providerReference inflow.1 t) (fun _ _ => True) t :=
    (findPending_backed.frame (fun _ _ => Holds.mono) (fun _ _ _ _ => Holds.mono) holds).imp
      (fun _ _ ended => ended) fun _ _ _ => trivial
  apply finds.imp _ fun _ _ h => h
  rintro found u ⟨asked, holds⟩
  cases found with
  | none => simp
  | some row =>
    have here := asked row rfl
    have address := here.1
    rw [← address] at here same
    rw [same] at holds
    rw [Proc.meets_bind]
    apply (matchInflow_backed here holds).imp _ fun _ _ h => h
    rintro now v matched _ ⟨⟩
    exact matched

theorem activateLoan_backed {loanId : Nat} {collateralReceivedAt : Time}
    (matched : Matched loanId w) : Keeps (contract reported tid) (fun _ _ => True)
      (activateLoan loanId collateralReceivedAt) w := by
  rw [Keeps, activateLoan, Proc.meets_bind]
  have reads : Keeps (contract reported tid) (fun _ => Matched loanId)
      (query fun _ w => findUniqueOrThrow w.loans loanId) w :=
    query_backed fun _ _ _ grows _ _ => grows.matched loanId matched
  apply reads.imp _ fun _ _ h => h
  intro loan t matched
  split
  · trivial
  refine then_backed (commit_backed fun i s _ u grows backed done => ?_) fun _ _ => look_backed
  obtain ⟨v, wrote, -, rfl⟩ := map_pair_ok.mp done
  obtain ⟨backed', grows'⟩ := writeActivation_backed backed (grows.matched loanId matched) wrote
  exact ⟨backed', grows', trivial⟩

theorem handleLoanCollateral_backed {loanId userId : Nat} {matchedAt : Time}
    (matched : Matched loanId w) : Keeps (contract reported tid) (fun _ _ => True)
      (handleLoanCollateral tid loanId userId matchedAt) w := by
  refine then_backed (activateLoan_backed matched) fun _ _ => ?_
  refine then_backed look_backed fun paidOut _ => ?_
  cases paidOut with
  | true => trivial
  | false =>
    refine then_backed look_backed fun read _ => ?_
    refine then_backed (unseen_backed fun i s _ t done => ?_) fun id u => ?_
    · obtain ⟨_, rfl⟩ := Prod.mk.inj (Except.ok.inj done)
      exact .of_eq rfl rfl rfl rfl rfl rfl
    · exact (rules reported tid).dispatch id u trivial

theorem processVerified_backed (ownAccount : String) (parsed : Option BlinkWebhookPayload)
    (reports : Reports reported (.collateralWebhook ownAccount parsed)) :
    Keeps (contract reported tid) (fun _ _ => True) (processVerified tid ownAccount parsed) w := by
  apply processVerified_meets
  · rintro payload paymentHash rfl hash
    exact ingest_backed rfl (reports paymentHash hash)
  · exact fun _ _ _ _ matched kind => handleLoanCollateral_backed (matched _ rfl kind)

theorem storeInflow_backed (row : Inflow) (reports : reported row.providerReference row.amount) :
    Keeps (contract reported tid) (fun _ _ => True) (storeInflow row) w := by
  refine commit_backed fun i s _ t _ backed done => ?_
  obtain ⟨_, rfl⟩ := Prod.mk.inj (Except.ok.inj done)
  unfold upsertInflow
  split
  · exact ⟨backed, Grows.refl s, trivial⟩
  · obtain ⟨backed', grows⟩ := backed.create_inflow reports
    exact ⟨backed', grows, trivial⟩

theorem procedure_backed (op : {op : Operation // Reports reported op}) :
    Keeps (contract reported tid) (fun _ _ => True) (procedure tid op) w := by
  obtain ⟨op, reports⟩ := op
  cases op with
  | checkoutLoan user dto => exact then_backed (checkoutLoan_backed user dto) fun _ _ => trivial
  | collateralWebhook ownAccount parsed =>
    exact then_backed (processVerified_backed ownAccount parsed reports) fun _ _ => trivial
  | upsertInflow row => exact storeInflow_backed row reports
  | creditInflow params => exact then_backed (creditInflow_backed params) fun _ _ => trivial
  | releaseForLoan loanId => exact then_backed (releaseForLoan_backed loanId) fun _ _ => trivial
  | cancelLoan userId loanId => exact cancelLoan_backed userId loanId
  | runExpiryCycle rows => exact runExpiryCycle_backed rows
  | runLiquidationCycle sellOf sendEmail rows => exact runLiquidationCycle_backed sellOf sendEmail rows
  | restoreFromBadLiquidation loanId => exact restoreFromBadLiquidation_backed loanId

end Meets

/-- No loan and no payment request yet. -/
structure Initial (reported : String → ℚ → Prop) (w : World) : Prop where
  loans : w.loans = []
  requests : w.paymentRequests = []
  pending : ∀ receivingAddress, w.pendingRequest receivingAddress = none
  inflows : ∀ inflow ∈ w.inflows, reported inflow.providerReference inflow.amount

theorem Initial.backed {reported : String → ℚ → Prop} {w : World} (initial : Initial reported w) :
    Backed reported w := by
  obtain ⟨loans, requests, pending, inflows⟩ := initial
  refine ⟨by simp [requests], fun address id cached => ?_, by simp [requests],
    fun id inflow found => inflows inflow (List.mem_of_getElem? found), by simp [loans]⟩
  rw [pending] at cached
  cases cached

def MatchedInflow (loanId : Nat) (request : PaymentRequest) (inflow : Inflow) (w : World) : Prop :=
  ∃ id inflowId : Nat, w.paymentRequests[id]? = some request ∧ request.sourceType = .loan ∧
    request.sourceId = loanId ∧ request.inflowId = some inflowId ∧
    w.inflows[inflowId]? = some inflow

/-- Where every amount reported for the payment hash is at least the expected one, the
inflow covers the collateral of the loan. -/
theorem collateral_backed {reported : String → ℚ → Prop} {w₀ : World}
    {trace : List (Nat × Event World Answer Access)} {c : Config World Answer Access AppError Unit}
    (initial : Initial reported w₀)
    (run : Runs (fun tid (op : {op : Operation // Reports reported op}) => procedure tid op)
      w₀ trace c)
    {loanId : Nat} {loan : Loan} (found : c.shared.loans[loanId]? = some loan)
    (activated : loan.collateralReceivedAt ≠ none) :
    (∃ request inflow, MatchedInflow loanId request inflow c.shared) ∧
      ∀ request inflow, MatchedInflow loanId request inflow c.shared →
        (∀ amount, reported request.receivingAddress amount → request.expectedAmount ≤ amount) →
          loan.collateralAmountSat ≤ inflow.amount := by
  have held : (backing reported).Holds (fun _ _ _ => True) (fun _ _ _ => True) trace c :=
    run.holds (backing_sound reported) (fun _ _ _ _ _ h => h) (fun _ _ _ _ _ h => h)
      initial.backed (fun _ => trivial) (fun _ op _ _ _ => procedure_backed op) fun _ _ => trivial
  have backed : Backed reported c.shared := held.inv
  constructor
  · obtain ⟨id, request, inflowId, present, kind, source, paid⟩ :=
      backed.activated loanId loan found activated
    obtain ⟨inflow, there, _⟩ := backed.paid id request inflowId present paid
    exact ⟨request, inflow, id, inflowId, present, kind, source, paid, there⟩
  · rintro request inflow ⟨id, inflowId, present, _, rfl, paid, there⟩ covers
    obtain ⟨inflow', there', reference⟩ := backed.paid id request inflowId present paid
    obtain rfl := Option.some.inj (there.symm.trans there')
    obtain ⟨loan', found', sized⟩ := backed.sized id request present
    obtain rfl := Option.some.inj (found.symm.trans found')
    have reports := backed.received inflowId inflow there
    rw [reference] at reports
    rw [sized]
    exact covers inflow.amount reports

def checkoutThenPaid {Op : Type} (opening paying : Op) : List (Choice Op Answer) :=
  .start opening :: checkoutAnswers.map (.run 0) ++ .start paying :: List.replicate 16 (.run 1 {})

def opensLoan : Operation := .checkoutLoan { id := 0 } { principalNgn := 100000 }

def dust : BlinkWebhookPayload := { collateralPaid with settlementAmount := 1 }

/-- The first loan is ACTIVE, and its request is matched to the first inflow. -/
def activeAndMatched (w : World) (amount : ℚ) : Bool :=
  (w.loans[0]?).any (fun loan => loan.status = .active && loan.collateralReceivedAt.isSome &&
    loan.collateralAmountSat = 277778) &&
  (w.paymentRequests[0]?).any (fun request => request.sourceType = .loan && request.sourceId = 0 &&
    request.inflowId = some 0 && request.expectedAmount = 277778) &&
  (w.inflows[0]?).any fun inflow => inflow.amount = amount

theorem of_activeAndMatched {w : World} {amount : ℚ} (checked : activeAndMatched w amount = true) :
    ∃ loan request inflow, w.loans[0]? = some loan ∧ loan.status = .active ∧
      loan.collateralReceivedAt ≠ none ∧ loan.collateralAmountSat = 277778 ∧
      MatchedInflow 0 request inflow w ∧ request.expectedAmount = 277778 ∧
      inflow.amount = amount := by
  simp only [activeAndMatched, Bool.and_eq_true, Option.any_eq_true, decide_eq_true_eq] at checked
  obtain ⟨⟨⟨loan, found, ⟨active, received⟩, sized⟩, request, present, ⟨⟨kind, source⟩, paid⟩, asks⟩,
    inflow, there, same⟩ := checked
  refine ⟨loan, request, inflow, found, active, ?_, sized, ⟨0, 0, present, kind, source, paid, there⟩,
    asks, same⟩
  rintro none
  simp [none] at received

/-- Deliveries of the sample report what the invoice asks for. -/
def reportedInFull (_ : String) (amount : ℚ) : Prop := amount = 277778

theorem collateralPaid_reports :
    Reports reportedInFull (.collateralWebhook "own" (some collateralPaid)) := fun _ _ => rfl

theorem collateral_backed_sample : ∃ trace c loan request inflow,
    Runs (fun tid (op : {op : Operation // Reports reportedInFull op}) => procedure tid op)
      banked trace c ∧ c.shared.loans[0]? = some loan ∧ loan.status = .active ∧
      MatchedInflow 0 request inflow c.shared ∧ loan.collateralAmountSat ≤ inflow.amount := by
  obtain ⟨trace, c, run, checked⟩ := exists_run
    (fun tid (op : {op : Operation // Reports reportedInFull op}) => procedure tid op) banked
    (checkoutThenPaid ⟨opensLoan, trivial⟩ ⟨_, collateralPaid_reports⟩)
    (fun _ c => activeAndMatched c.shared 277778) (by decide +kernel)
  obtain ⟨loan, request, inflow, found, active, received, _, matched, asks, _⟩ :=
    of_activeAndMatched checked
  have initial : Initial reportedInFull banked := ⟨rfl, rfl, fun _ => rfl, by simp [banked]⟩
  have backed := (collateral_backed initial run found received).2 request inflow matched
  refine ⟨trace, c, loan, request, inflow, run, found, active, matched, backed ?_⟩
  rintro amount rfl
  simp [asks]

/-- A delivery of one satoshi activates the loan. -/
theorem collateral_unbacked : ∃ trace c loan request inflow, Runs procedure banked trace c ∧
    c.shared.loans[0]? = some loan ∧ loan.status = .active ∧
    MatchedInflow 0 request inflow c.shared ∧ inflow.amount < loan.collateralAmountSat := by
  obtain ⟨trace, c, run, checked⟩ := exists_run procedure banked
    (checkoutThenPaid opensLoan (.collateralWebhook "own" (some dust)))
    (fun _ c => activeAndMatched c.shared 1) (by decide +kernel)
  obtain ⟨loan, request, inflow, found, active, _, sized, matched, _, same⟩ :=
    of_activeAndMatched checked
  refine ⟨trace, c, loan, request, inflow, run, found, active, matched, ?_⟩
  rw [same, sized]
  norm_num

end Bitmonie.CollateralBacking
