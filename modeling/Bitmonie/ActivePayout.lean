import Bitmonie.CollateralWebhook
import Bitmonie.LiquidationMonitor
import Bitmonie.PayoutRules

/-! Payouts of ACTIVE loans only, when calls run one at a time. The webhook looks at the
payment request; what its status says about the loan is an invariant of all operations. -/
namespace Bitmonie.ActivePayout
open LoansService PaymentRequestsService InflowsService LoanExpiryWorker LiquidationMonitor
  DisbursementsService DisbursementProvider OutflowsService BlinkWebhook PayoutRules

structure RowOrder (α : Type) where
  order : List α → List α
  perm : ∀ rows, (order rows).Perm rows

inductive Operation where
  | checkoutLoan (user : User) (dto : CheckoutLoanDto)
  | cancelLoan (userId loanId : Nat)
  | runExpiryCycle (rows : RowOrder ExpiredLoanRow)
  | runLiquidationCycle (sellOf : String → Option Decimal) (sendEmail : Bool)
      (rows : RowOrder ActiveLoanRow)
  | creditInflow (params : CreditParams)
  | collateralWebhook (ownAccount : String) (parsed : Option BlinkWebhookPayload)

/-- Calls run one at a time, so one holder of row locks is enough. -/
def procedure : Operation → Action Unit
  | .checkoutLoan user dto => (checkoutLoan user dto).bind fun _ => .pure ()
  | .cancelLoan userId loanId => cancelLoan userId loanId
  | .runExpiryCycle rows => runExpiryCycle rows.order
  | .runLiquidationCycle sellOf sendEmail rows => runLiquidationCycle 0 sellOf sendEmail rows.order
  | .creditInflow params => (creditInflow 0 params).bind fun _ => .pure ()
  | .collateralWebhook ownAccount parsed =>
    (processVerified 0 ownAccount parsed).bind fun _ => .pure ()

def HasStatus (loanId : Nat) (status : LoanStatus) (w : World) : Prop :=
  ∃ loan, w.loans[loanId]? = some loan ∧ loan.status = status

/-- The loan of a PENDING payment request waits for its collateral, or was cancelled. -/
structure Booked (w : World) : Prop where
  awaiting : ∀ (id : Nat) (request : PaymentRequest), w.paymentRequests[id]? = some request →
    request.status = .pending →
    HasStatus request.sourceId .pendingCollateral w ∨ HasStatus request.sourceId .cancelled w
  single : ∀ (a b : Nat) (first second : PaymentRequest), w.paymentRequests[a]? = some first →
    w.paymentRequests[b]? = some second → first.sourceId = second.sourceId → a = b
  owned : ∀ (id : Nat) (request : PaymentRequest), w.paymentRequests[id]? = some request →
    request.sourceId < w.loans.length

def Closed (loanId : Nat) (w : World) : Prop :=
  ∀ (id : Nat) (request : PaymentRequest), w.paymentRequests[id]? = some request →
    request.sourceId = loanId → request.status ≠ .pending

/-- A disbursement is created for an ACTIVE loan, and an outflow for a disbursement of one. -/
def ActiveAt : Access → World → Prop
  | .createDisbursement loanId, w => HasStatus loanId .active w
  | .createOutflow disbursementId, w => ∀ row, w.disbursements[disbursementId]? = some row →
      HasStatus row.sourceId .active w
  | _, _ => True

/-- A payment is matched to the request of a loan that is not CANCELLED. -/
def payable : Access → Answer → World → Bool
  | .matchInflow _ loanId, i, w => i.fails || (w.loans[loanId]?).all (·.status ≠ .cancelled)
  | _, _, _ => true

/-- Nothing moves between two accesses. -/
def serial : Contract World Answer Access where
  inv := Booked
  allowed label i w := payable label i w = true
  rely s t := s = t
  guar label _ s t := Persists s t ∧ ActiveAt label s

theorem HasStatus.unique {loanId : Nat} {first second : LoanStatus} {w : World}
    (one : HasStatus loanId first w) (other : HasStatus loanId second w) : first = second := by
  obtain ⟨loan, found, rfl⟩ := one
  obtain ⟨loan', found', rfl⟩ := other
  obtain rfl := Option.some.inj (found.symm.trans found')
  rfl

/-- A loan that is neither waiting nor cancelled has no PENDING request. -/
theorem Booked.closed {w : World} {loanId : Nat} {status : LoanStatus} (booked : Booked w)
    (has : HasStatus loanId status w) (waiting : status ≠ .pendingCollateral)
    (cancelled : status ≠ .cancelled) : Closed loanId w := by
  rintro id request found rfl pending
  rcases booked.awaiting id request found pending with here | here
  · exact waiting (has.unique here)
  · exact cancelled (has.unique here)

theorem Booked.of_eq {s t : World} (booked : Booked s) (loans : t.loans = s.loans)
    (requests : t.paymentRequests = s.paymentRequests) : Booked t := by
  refine ⟨?_, ?_, ?_⟩
  · simpa only [HasStatus, loans, requests] using booked.awaiting
  · simpa only [requests] using booked.single
  · simpa only [loans, requests] using booked.owned

/-- The step of a loan: to CANCELLED, or with no PENDING request to contradict it. -/
theorem Booked.set_loan {w : World} {loanId : Nat} {row : Loan} (booked : Booked w)
    (moved : row.status = .cancelled ∨ Closed loanId w) :
    Booked { w with loans := w.loans.set loanId row } := by
  refine ⟨fun id request found pending => ?_, booked.single, fun id request found => ?_⟩
  · by_cases same : loanId = request.sourceId
    · rcases moved with cancelled | closed
      · subst same
        have bound := booked.owned id request found
        exact .inr ⟨row, by simp [bound], cancelled⟩
      · exact absurd pending (closed id request found same.symm)
    · have other (status : LoanStatus) (has : HasStatus request.sourceId status w) :
          HasStatus request.sourceId status { w with loans := w.loans.set loanId row } := by
        obtain ⟨loan, present, rfl⟩ := has
        exact ⟨loan, (List.getElem?_set_ne same).trans present, rfl⟩
      exact (booked.awaiting id request found pending).imp (other _) (other _)
  · simpa using booked.owned id request found

/-- The step of a request, which leaves PENDING. -/
theorem Booked.set_request {w : World} {id : Nat} {before after : PaymentRequest}
    (booked : Booked w) (found : w.paymentRequests[id]? = some before)
    (closed : after.status ≠ .pending) (source : after.sourceId = before.sourceId) :
    Booked { w with paymentRequests := w.paymentRequests.set id after } := by
  have was (other : Nat) (request : PaymentRequest)
      (present : (w.paymentRequests.set id after)[other]? = some request) :
      ∃ earlier, w.paymentRequests[other]? = some earlier ∧ request.sourceId = earlier.sourceId ∧
        (request.status = .pending → request = earlier) := by
    rcases getElem?_set_cases present with ⟨rfl, rfl⟩ | ⟨_, old⟩
    · exact ⟨before, found, source, fun pending => absurd pending closed⟩
    · exact ⟨request, old, rfl, fun _ => rfl⟩
  refine ⟨fun other request present pending => ?_, fun a b first second hasA hasB same => ?_,
    fun other request present => ?_⟩
  · obtain ⟨earlier, had, _, same⟩ := was other request present
    obtain rfl := same pending
    exact booked.awaiting other request had pending
  · obtain ⟨first', hadA, sourceA, _⟩ := was a first hasA
    obtain ⟨second', hadB, sourceB, _⟩ := was b second hasB
    exact booked.single a b first' second' hadA hadB (sourceA.symm.trans (same.trans sourceB))
  · obtain ⟨earlier, had, same, _⟩ := was other request present
    exact same ▸ booked.owned other earlier had

/-- The request that left PENDING was the only one of its loan. -/
theorem Booked.closed_of_set {w : World} {id : Nat} {before after : PaymentRequest}
    (booked : Booked w) (found : w.paymentRequests[id]? = some before)
    (closed : after.status ≠ .pending) :
    Closed before.sourceId { w with paymentRequests := w.paymentRequests.set id after } := by
  intro other request present source
  rcases getElem?_set_cases present with ⟨rfl, rfl⟩ | ⟨different, old⟩
  · exact closed
  · exact absurd (booked.single id other before request found old source.symm).symm different

/-- A status write that leaves the requests as they are. -/
theorem Booked.moved {w t : World} {loanId : Nat} {toStatus : LoanStatus} (booked : Booked w)
    (written : StatusWritten loanId toStatus w t) (requests : t.paymentRequests = w.paymentRequests)
    (closed : toStatus = .cancelled ∨ Closed loanId w) : Booked t := by
  obtain ⟨_, row, _, rfl, rows⟩ := written.rows
  exact (booked.set_loan closed).of_eq rows requests

/-- A new loan, for which there is no request yet. -/
theorem Booked.create_loan {w : World} (row : Loan) (booked : Booked w) :
    Booked { w with loans := w.loans ++ [row] } := by
  refine ⟨fun id request found pending => ?_, booked.single, fun id request found => ?_⟩
  · have old (status : LoanStatus) (has : HasStatus request.sourceId status w) :
        HasStatus request.sourceId status { w with loans := w.loans ++ [row] } := by
      obtain ⟨loan, present, rfl⟩ := has
      exact ⟨loan, concat_of_row present, rfl⟩
    exact (booked.awaiting id request found pending).imp (old _) (old _)
  · have := booked.owned id request found
    simp only [List.length_append, List.length_singleton]
    omega

/-- The first request of a loan that waits for its collateral. -/
theorem Booked.create_request {w : World} {row : PaymentRequest} (booked : Booked w)
    (waiting : HasStatus row.sourceId .pendingCollateral w)
    (first : ∀ (id : Nat) (request : PaymentRequest), w.paymentRequests[id]? = some request →
      request.sourceId ≠ row.sourceId) :
    Booked { w with paymentRequests := w.paymentRequests ++ [row] } := by
  refine ⟨fun id request found pending => ?_, fun a b one other hasA hasB same => ?_,
    fun id request found => ?_⟩
  · rcases row_of_concat found with old | ⟨_, rfl⟩
    · exact booked.awaiting id request old pending
    · exact .inl waiting
  · rcases row_of_concat hasA with oldA | ⟨atA, rfl⟩ <;>
      rcases row_of_concat hasB with oldB | ⟨atB, rfl⟩
    · exact booked.single a b one other oldA oldB same
    · exact absurd same (first a one oldA)
    · exact absurd same.symm (first b other oldB)
    · exact atA.trans atB.symm
  · rcases row_of_concat found with old | ⟨_, rfl⟩
    · exact booked.owned id request old
    · obtain ⟨loan, present, _⟩ := waiting
      exact (List.getElem?_eq_some_iff.mp present).1

theorem read_keeps {f : Answer → World → Except AppError α} {w : World} {post : α → World → Prop}
    (read : ∀ i a, Booked w → f i w = .ok a → post a w) : Keeps serial post (query f) w := by
  apply query_meets
  rintro t rfl booked i _
  exact ⟨⟨Persists.refl w, trivial⟩, trivial, fun _ _ => trivial, fun a => read i a booked⟩

theorem write_keeps {label : Access} {enabled : World → Bool} {w : World}
    {f : Answer → World → Except AppError (α × World)} {post : α → World → Prop}
    (active : ActiveAt label w)
    (writes : ∀ i a t, payable label i w = true → i.fails = false → Booked w →
      f i w = .ok (a, t) → Booked t ∧ Persists w t ∧ post a t) :
    Keeps serial post (commit label enabled f) w := by
  apply commit_meets
  rintro t rfl booked _ i allowed
  refine ⟨⟨Persists.refl w, active⟩, fun _ => trivial, fun _ _ => trivial, fun a t succeeds done => ?_⟩
  obtain ⟨booked', persists, ends⟩ := writes i a t allowed succeeds booked done
  exact ⟨booked', ⟨persists, active⟩, fun _ => ends, fun _ => trivial⟩

theorem setPending_keeps {receivingAddress : String} {entry : Option Nat} {w : World}
    {kept : World → Prop} (here : kept w)
    (cache : ∀ w keys, kept w → kept { w with pendingRequest := keys }) :
    Keeps serial (fun _ => kept) (setPending receivingAddress entry) w := by
  refine write_keeps trivial fun i a t _ _ booked done => ?_
  obtain ⟨_, rfl⟩ := Prod.mk.inj (Except.ok.inj done)
  exact ⟨booked.of_eq rfl rfl, .of_eq rfl rfl, cache w _ here⟩

theorem cancelLoan_keeps (userId loanId : Nat) (w : World) :
    Keeps serial (fun _ _ => True) (cancelLoan userId loanId) w := by
  rw [Keeps, cancelLoan, Proc.meets_bind]
  apply read_keeps
  intro _ loan _ _
  refine write_keeps trivial fun i a t _ _ booked done => ?_
  obtain ⟨_, moved, -, rfl⟩ := map_pair_ok.mp done
  have written := (cancel_written moved).1
  obtain ⟨loans, _, rfl⟩ := LoanStatusService.transition_ok moved
  exact ⟨booked.moved written rfl (.inl rfl), .of_eq rfl rfl, trivial⟩

def Requested (row : ExpiredLoanRow) (w : World) : Prop :=
  ∃ request, w.paymentRequests[row.paymentRequestId]? = some request ∧ request.sourceId = row.loanId

theorem requested_of_expired {now : Time} {w : World} {row : ExpiredLoanRow}
    (member : row ∈ expiredLoans now w) : Requested row w := by
  obtain ⟨loanId, _, inner⟩ := List.mem_flatMap.mp member
  obtain ⟨requestId, _, chosen⟩ := List.mem_filterMap.mp inner
  split at chosen
  · rename_i loan request _ present
    split at chosen
    · rename_i joined
      obtain rfl := Option.some.inj chosen
      exact ⟨request, present, joined.2.1⟩
    · cases chosen
  · cases chosen

theorem Requested.set {row : ExpiredLoanRow} {w t : World} {id : Nat}
    {before after : PaymentRequest} (requested : Requested row w)
    (found : w.paymentRequests[id]? = some before)
    (requests : t.paymentRequests = w.paymentRequests.set id after)
    (source : after.sourceId = before.sourceId) : Requested row t := by
  obtain ⟨request, present, same⟩ := requested
  rw [Requested, requests]
  by_cases one : id = row.paymentRequestId
  · subst one
    obtain rfl := Option.some.inj (found.symm.trans present)
    exact ⟨after, getElem?_set_of_eq found, source.trans same⟩
  · exact ⟨request, (List.getElem?_set_ne one).trans present, same⟩

abbrev AllRequested (rows : List ExpiredLoanRow) (w : World) : Prop :=
  ∀ row ∈ rows, Requested row w

/-- The loan and its request leave PENDING in one transaction. -/
theorem expireLoan_keeps {row : ExpiredLoanRow} {rows : List ExpiredLoanRow} {w : World}
    (member : row ∈ rows) (requested : AllRequested rows w) :
    (expireLoan row).Meets serial (fun _ => AllRequested rows) (fun _ => AllRequested rows) w := by
  rw [expireLoan, Proc.meets_bind]
  apply commit_meets
  rintro t rfl booked _ i _
  refine ⟨⟨Persists.refl w, trivial⟩, fun _ => requested, fun _ _ => requested, fun _ t _ done => ?_⟩
  obtain ⟨_, wrote, -, rfl⟩ := map_pair_ok.mp done
  obtain ⟨stored, request, log, found, present, rfl⟩ := writeExpiry_ok wrote
  obtain ⟨known, here, source⟩ := requested row member
  obtain rfl := Option.some.inj (present.symm.trans here)
  have left : (expiredRequest request).status ≠ .pending := by simp [expiredRequest]
  have closed := booked.closed_of_set present left
  rw [source] at closed
  have expired := booked.set_request present left rfl
  have still {t : World} (requests : t.paymentRequests =
      w.paymentRequests.set row.paymentRequestId (expiredRequest request)) : AllRequested rows t :=
    fun other inside => (requested other inside).set present requests rfl
  refine ⟨(expired.set_loan (.inr closed)).of_eq rfl rfl, ⟨.of_eq rfl rfl, trivial⟩, fun _ => ?_,
    fun _ => still rfl⟩
  apply commit_meets
  rintro u rfl booked _ j _
  refine ⟨⟨Persists.refl _, trivial⟩, fun _ => still rfl, fun _ _ => still rfl, fun _ t _ done => ?_⟩
  obtain ⟨_, rfl⟩ := Prod.mk.inj (Except.ok.inj done)
  exact ⟨booked.of_eq rfl rfl, ⟨.of_eq rfl rfl, trivial⟩, fun _ => still rfl, fun _ => still rfl⟩

theorem runExpiryCycle_keeps (rows : RowOrder ExpiredLoanRow) (w : World) :
    Keeps serial (fun _ _ => True) (runExpiryCycle rows.order) w := by
  rw [Keeps, runExpiryCycle, Proc.meets_bind]
  apply read_keeps
  intro i read _ done
  obtain rfl := Except.ok.inj done
  have requested : AllRequested (rows.order (expiredLoans i.now w)) w := fun row member =>
    requested_of_expired ((rows.perm _).mem_iff.mp member)
  have looped : (Proc.each (rows.order (expiredLoans i.now w)) fun row =>
      (expireLoan row).catching fun _ => .pure ()).Meets serial
        (fun _ => AllRequested (rows.order (expiredLoans i.now w))) (fun _ _ => True) w := by
    apply Proc.meets_each requested
    intro row member t kept
    rw [Proc.meets_catching]
    exact expireLoan_keeps member kept
  exact looped.imp (fun _ _ _ => trivial) fun _ _ h => h

abbrev AllClosed (rows : List ActiveLoanRow) (w : World) : Prop := ∀ row ∈ rows, Closed row.id w

theorem closed_of_active {w : World} {row : ActiveLoanRow} (booked : Booked w)
    (member : row ∈ activeLoans w) : Closed row.id w := by
  obtain ⟨id, _, chosen⟩ := List.mem_filterMap.mp member
  split at chosen
  · rename_i loan found
    split at chosen
    · rename_i active
      obtain rfl := Option.some.inj chosen
      exact booked.closed ⟨loan, found, active.1⟩ (by decide) (by decide)
    · cases chosen
  · cases chosen

theorem liquidateLoan_keeps {row : ActiveLoanRow} {rows : List ActiveLoanRow} {rate : ℚ} {w : World}
    (member : row ∈ rows) (closed : AllClosed rows w) :
    (liquidateLoan 0 row rate).Meets serial (fun _ => AllClosed rows) (fun _ => AllClosed rows) w := by
  apply commit_meets
  rintro t rfl booked _ i _
  refine ⟨⟨Persists.refl w, trivial⟩, fun _ => closed, fun _ _ => closed, fun _ t _ done => ?_⟩
  obtain ⟨_, wrote, -, rfl⟩ := map_pair_ok.mp done
  have written := liquidation_written wrote
  obtain ⟨_, _, _, _, _, rfl⟩ := writeLiquidation_ok wrote
  have booked' := booked.moved written rfl (.inr (closed row member))
  exact ⟨booked'.of_eq rfl rfl, ⟨.of_eq rfl rfl, trivial⟩, fun _ => closed, fun _ => closed⟩

theorem seizeCollateral_keeps {row : ActiveLoanRow} {rows : List ActiveLoanRow} {rate : ℚ}
    {w : World} (member : row ∈ rows) (closed : AllClosed rows w) :
    (seizeCollateral 0 row rate).Meets serial (fun _ => AllClosed rows) (fun _ _ => True) w := by
  rw [seizeCollateral, Proc.meets_catching, Proc.meets_bind]
  apply (liquidateLoan_keeps member closed).imp
  · intro _ t known
    rw [Proc.meets_catching, swapBtcToUsd, Proc.meets_access]
    rintro u rfl booked _ i _
    refine ⟨booked.of_eq rfl rfl, ⟨.of_eq rfl rfl, trivial⟩, ?_⟩
    cases i.fails || i.lost <;> exact known
  · exact fun _ _ known => known

theorem runLiquidationCycle_keeps (sellOf : String → Option Decimal) (sendEmail : Bool)
    (rows : RowOrder ActiveLoanRow) (w : World) :
    Keeps serial (fun _ _ => True) (runLiquidationCycle 0 sellOf sendEmail rows.order) w := by
  apply runLiquidationCycle_meets (fun _ => True) AllClosed
  · intro label i t quiet
    refine ⟨Persists.refl t, ?_⟩
    cases label <;> trivial
  · exact fun _ _ _ h => h
  · rintro _ s t rfl known
    exact known
  · exact fun t booked _ row member => closed_of_active booked ((rows.perm _).mem_iff.mp member)
  · exact fun _ row member rate t known => seizeCollateral_keeps member known
  · trivial

theorem creditBody_keeps (params : CreditParams) (w : World) :
    Keeps serial (fun _ _ => True) (creditBody 0 params) w := by
  rw [Keeps, creditBody, Proc.meets_bind]
  apply read_keeps
  intro i read booked result
  obtain ⟨rows, reads, rfl⟩ := map_ok.mp result
  rw [Proc.meets_bind]
  cases planned : planCredit params.amountNgn i.now rows.1 rows.2 with
  | error e => trivial
  | ok plan =>
    cases plan with
    | none => trivial
    | some credit =>
      simp only [Proc.ofExcept, Proc.meets_pure, Proc.meets_bind]
      have active := (planCredit_ok planned).1
      have closed : Closed params.loanId w :=
        booked.closed ⟨rows.1, readLoan_found reads, active⟩ (by decide) (by decide)
      refine write_keeps trivial fun j _ t _ _ booked done => ?_
      obtain ⟨v, wrote, -, rfl⟩ := map_pair_ok.mp done
      obtain ⟨_, stored, _, _, rfl⟩ := (writeCredit_ok active wrote).eq
      refine ⟨?_, .of_eq rfl rfl, trivial⟩
      cases credit.isFullyRepaid with
      | false => exact booked.of_eq rfl rfl
      | true => exact (booked.set_loan (.inr closed)).of_eq rfl rfl

theorem creditInflow_keeps (params : CreditParams) (w : World) :
    Keeps serial (fun _ _ => True) (creditInflow 0 params) w := by
  rw [Keeps, creditInflow, Proc.meets_bind]
  cases floorCheck params with
  | error e => trivial
  | ok =>
    simp only [Proc.ofExcept, Proc.meets_pure, Proc.meets_bind]
    apply lockingLoan_meets
    · rintro t rfl booked _ i _
      exact ⟨⟨Persists.refl w, trivial⟩, trivial, trivial, fun _ _ =>
        ⟨booked.of_eq rfl rfl, ⟨.of_eq rfl rfl, trivial⟩, creditBody_keeps params _⟩⟩
    · rintro u t rfl booked i _
      have free : serial.guar (.unlockLoan params.loanId) i u
          { u with rowLock := Function.update u.rowLock params.loanId none } :=
        ⟨.of_eq rfl rfl, trivial⟩
      refine ⟨fun done _ => ⟨booked.of_eq rfl rfl, free, ?_⟩,
        fun _ _ => ⟨booked.of_eq rfl rfl, free, trivial⟩⟩
      cases done.2 with
      | none => trivial
      | some receipt =>
        rw [Proc.meets_bind]
        exact read_keeps fun _ _ _ _ => trivial

/-- A new loan waits for its collateral and has no request. -/
structure Fresh (loanId : Nat) (w : World) : Prop where
  waiting : HasStatus loanId .pendingCollateral w
  unrequested : ∀ (id : Nat) (request : PaymentRequest), w.paymentRequests[id]? = some request →
    request.sourceId ≠ loanId

theorem createLoan_keeps {user : User} {dto : CheckoutLoanDto} {accountId : Nat}
    {quote : CalculatorService.CalculatorResult} {w : World} :
    Keeps serial Fresh (createLoan user dto accountId quote) w := by
  rw [Keeps, createLoan, Proc.meets_catching]
  refine Proc.Meets.imp (write_keeps trivial fun i loanId t _ _ booked done => ?_)
    (fun _ _ fresh => fresh) fun _ _ _ => trivial
  obtain ⟨rfl, _, rfl⟩ := writeLoan_ok done
  refine ⟨(booked.create_loan (loanRow user dto accountId quote i.now)).of_eq rfl rfl,
    .of_eq rfl rfl, ⟨_, List.getElem?_concat_length, rfl⟩, fun id request found => ?_⟩
  exact Nat.ne_of_lt (booked.owned id request found)

theorem createRequest_keeps {params : CreatePaymentRequestParams} {w : World}
    (fresh : Fresh params.sourceId w) :
    Keeps serial (fun _ _ => True) (create params) w := by
  refine create_meets (fun _ _ _ => True) ?_ ?_ ?_ ?_ fresh
  · exact fun _ t => ⟨Persists.refl t, trivial⟩
  · rintro s t rfl fresh
    exact fresh
  · intro invoice t fresh
    refine write_keeps trivial fun i id u _ _ booked done => ?_
    obtain ⟨_, rfl⟩ := Prod.mk.inj (Except.ok.inj done)
    exact ⟨booked.create_request fresh.waiting fresh.unrequested, .of_eq rfl rfl, trivial⟩
  · exact fun _ _ _ _ => setPending_keeps trivial fun _ _ _ => trivial

theorem checkoutLoan_keeps (user : User) (dto : CheckoutLoanDto) (w : World) :
    Keeps serial (fun _ _ => True) (checkoutLoan user dto) w :=
  checkoutLoan_meets (fun _ t => ⟨Persists.refl t, trivial⟩) (fun _ t => ⟨Persists.refl t, trivial⟩)
    (fun _ _ _ => createLoan_keeps) fun _ _ _ fresh => createRequest_keeps fresh

def ForActive (disbursementId : Nat) (w : World) : Prop :=
  ∃ row, w.disbursements[disbursementId]? = some row ∧ HasStatus row.sourceId .active w

theorem closing_serial {id : Nat} {label : Access} {w : World}
    {f : Answer → World → Except AppError (α × World)} (active : ∀ w, ActiveAt label w)
    (writes : ∀ i a t, f i w = .ok (a, t) → Marked id w t) :
    Keeps serial (fun _ _ => True) (closing id label f) w := by
  apply closing_keeps
  rintro t rfl booked i ended
  refine ⟨⟨Booked.of_eq booked rfl rfl, .of_eq rfl rfl, active w⟩, fun a t done => ?_⟩
  rcases writes i a t done with rfl | ⟨_, _, _, _, rfl⟩
  · exact ⟨Booked.of_eq booked rfl rfl, .of_eq rfl rfl, active _⟩
  · exact ⟨Booked.of_eq booked rfl rfl, .of_eq rfl rfl, active w⟩

/-- An update of an outflow, which may claim a settlement. -/
theorem outflowWrite_keeps {id : Nat} {status : OutflowStatus} {w : World}
    {data : Answer → Outflow → Outflow} {claim : Answer → World → World}
    (same : ∀ i before, (data i before).disbursementId = before.disbursementId ∧
      (data i before).providerReference = before.providerReference)
    (claims : ∀ i t, ∃ settled, claim i t = { t with settling := settled }) :
    Keeps serial (fun _ _ => True) (commit (.outflowStatus id status) (fun _ => true) fun i w =>
      (updateOutflow id (data i) w).map fun w' => ((), claim i w')) w := by
  refine write_keeps trivial fun i _ t _ _ booked done => ?_
  obtain ⟨_, updated, -, rfl⟩ := map_pair_ok.mp done
  obtain ⟨before, found, rfl⟩ := updateOutflow_ok.mp updated
  obtain ⟨settled, claimed⟩ := claims i { w with outflows := w.outflows.set id (data i before) }
  rw [claimed]
  obtain ⟨owner, reference⟩ := same i before
  exact ⟨booked.of_eq rfl rfl, Persists.set found owner reference settled, trivial⟩

theorem disbursementWrite_keeps {id : Nat} {label : Access} {w : World}
    {data : Answer → Disbursement → Disbursement} (active : ActiveAt label w) :
    Keeps serial (fun _ _ => True) (commit label (fun _ => true) fun i w =>
      (updateDisbursement id (data i) w).map ((), ·)) w := by
  refine write_keeps active fun i _ t _ _ booked done => ?_
  obtain ⟨_, updated, -, rfl⟩ := map_pair_ok.mp done
  obtain ⟨row, found, rfl⟩ := updateDisbursement_ok.mp updated
  exact ⟨booked.of_eq rfl rfl, .of_eq rfl rfl, trivial⟩

theorem serial_rules : Rules 0 serial ForActive (fun _ _ => True) fun _ _ => True where
  rely s t moved := by
    obtain rfl : s = t := moved
    exact Persists.refl s
  own _ _ _ _ wrote := wrote.1
  still label _ w idle := by
    refine ⟨Persists.refl w, ?_⟩
    rcases idle with rfl | rfl | rfl <;> trivial
  target _ s t moved here := by
    obtain rfl : s = t := moved
    exact here
  createOutflow disbursement attemptNumber w target := by
    obtain ⟨row, present, active⟩ := target
    have created : ActiveAt (.createOutflow disbursement.id) w := by
      intro row' present'
      obtain rfl := Option.some.inj (present.symm.trans present')
      exact active
    refine write_keeps created fun i id t _ _ booked done => ?_
    obtain ⟨-, done⟩ := unless_ok.mp done
    obtain ⟨-, done⟩ := unless_ok.mp done
    obtain ⟨rfl, rfl⟩ := Prod.mk.inj (Except.ok.inj done)
    exact ⟨booked.of_eq rfl rfl, Persists.create w _, _, List.getElem?_concat_length, rfl, rfl⟩
  initiateTransfer _ _ reference w _ := by
    rw [Keeps, initiateTransfer, Proc.meets_access]
    rintro t rfl booked _ i _
    cases i.fails with
    | true => exact ⟨booked, ⟨Persists.refl w, trivial⟩, trivial⟩
    | false =>
      simp only [Bool.false_eq_true, if_false]
      by_cases absent : w.transfers reference = .absent
      · simp only [absent, if_true]
        refine ⟨Booked.of_eq booked rfl rfl, ⟨Persists.book w reference (by decide), trivial⟩, ?_⟩
        cases i.lost <;> simp
      · simp only [absent, if_false]
        refine ⟨booked, ⟨Persists.refl w, trivial⟩, ?_⟩
        cases i.lost <;> simp [absent]
  markInitiated _ _ _ providerTxId _ _ _ :=
    outflowWrite_keeps (fun _ _ => ⟨rfl, rfl⟩) fun _ t => ⟨t.settling, rfl⟩
  markOutflowSuccessful _ disbursementId _ _ _ _ _ :=
    outflowWrite_keeps (fun _ _ => ⟨rfl, rfl⟩) fun i t => settling_claims 0 disbursementId i t
  markOutflowFailed _ disbursementId _ _ _ _ _ :=
    outflowWrite_keeps (fun _ _ => ⟨rfl, rfl⟩) fun i t => settling_claims 0 disbursementId i t
  markSuccessful _ _ _ :=
    closing_serial (fun _ => trivial) fun _ _ _ done => updateDisbursement_marked done fun _ => rfl
  updateUnlessOnHold disbursementId failureReason w _ := by
    refine closing_serial (fun _ => trivial) fun i a t done => ?_
    obtain rfl : _ = t := congrArg Prod.snd (Except.ok.inj done)
    exact holdRow_marked disbursementId failureReason i.now w
  markOnHoldAlerted _ _ := disbursementWrite_keeps trivial
  markProcessing _ _ := disbursementWrite_keeps trivial
  markCancelled _ _ _ _ := disbursementWrite_keeps trivial

/-- The loan of a request that was just matched. -/
structure Payable (loanId : Nat) (w : World) : Prop where
  waiting : HasStatus loanId .pendingCollateral w
  closed : Closed loanId w

theorem createInflow_keeps {params : IngestInflowParams} {w : World} :
    Keeps serial (fun _ _ => True) (createInflow params) w := by
  rw [Keeps, createInflow, Proc.meets_catching]
  have inserts : Keeps serial (fun _ _ => True) (commit (.createInflow params.providerReference)
      (fun _ => true) fun i w =>
        if w.inflows.any fun inflow => inflow.providerReference = params.providerReference then
          .error .uniqueViolation
        else .ok ((w.inflows.length, ingestedRow params i.now),
          { w with inflows := w.inflows ++ [ingestedRow params i.now] })) w := by
    refine write_keeps trivial fun i a t _ _ booked done => ?_
    obtain ⟨-, done⟩ := unless_ok.mp done
    obtain ⟨_, rfl⟩ := Prod.mk.inj (Except.ok.inj done)
    exact ⟨booked.of_eq rfl rfl, .of_eq rfl rfl, trivial⟩
  apply inserts.imp fun _ _ _ => trivial
  intro e t _
  split
  · exact read_keeps fun _ _ _ _ => trivial
  · trivial

theorem findPending_keeps {receivingAddress : String} {w : World} :
    Keeps serial (fun found t => ∀ row, found = some row →
        t.paymentRequests[row.1]? = some row.2 ∧ row.2.status = .pending)
      (findPendingByReceivingAddress receivingAddress) w := by
  rw [Keeps, findPendingByReceivingAddress, Proc.meets_bind]
  apply read_keeps
  intro _ cachedId _ _
  apply read_keeps
  rintro _ found _ done row rfl
  have read := Except.ok.inj done
  cases cachedId with
  | some id =>
    obtain ⟨request, present, chosen⟩ := Option.bind_eq_some_iff.mp read
    split at chosen
    · rename_i pending
      obtain rfl := Option.some.inj chosen
      exact ⟨present, pending⟩
    · cases chosen
  | none =>
    obtain ⟨present, chosen⟩ := findRow_some read
    exact ⟨present, (by simpa using chosen : _ ∧ _).2⟩

/-- The match closes the request; its loan was not cancelled, so it waits. -/
theorem matchInflow_keeps {id inflowId : Nat} {request : PaymentRequest} {w : World}
    (present : w.paymentRequests[id]? = some request) (pending : request.status = .pending) :
    Keeps serial (fun _ => Payable request.sourceId) (matchInflow id request inflowId) w := by
  rw [Keeps, matchInflow, Proc.meets_bind]
  have matched : Keeps serial (fun _ => Payable request.sourceId)
      (commit (.matchInflow id request.sourceId) (fun _ => true) fun i w =>
        (writeMatch id request inflowId i.now w).map ((), ·)) w := by
    refine write_keeps trivial fun i _ t allowed succeeds booked done => ?_
    obtain ⟨_, wrote, -, rfl⟩ := map_pair_ok.mp done
    obtain ⟨stored, inflow, found, _, rfl⟩ := writeMatch_ok wrote
    obtain rfl := Option.some.inj (found.symm.trans present)
    have left : (paidRequest inflowId i.now stored).status ≠ .pending := by simp [paidRequest]
    have waiting : HasStatus stored.sourceId .pendingCollateral w := by
      rcases booked.awaiting id stored found pending with waiting | ⟨loan, held, cancelled⟩
      · exact waiting
      · simp [payable, succeeds, held, cancelled] at allowed
    exact ⟨(booked.set_request found left rfl).of_eq rfl rfl, .of_eq rfl rfl, waiting,
      booked.closed_of_set found left⟩
  apply matched.imp _ fun _ _ h => h
  intro _ t payable
  exact setPending_keeps payable fun _ _ kept => ⟨kept.waiting, kept.closed⟩

theorem ingest_keeps {params : IngestInflowParams} {w : World} :
    Keeps serial (fun ingested t => ∀ matched, ingested.2 = some matched →
      Payable matched.1.sourceId t) (ingest params) w := by
  rw [Keeps, ingest, Proc.meets_bind]
  apply createInflow_keeps.imp _ fun _ _ h => h
  intro inflow t _
  rw [Proc.meets_bind]
  apply findPending_keeps.imp _ fun _ _ h => h
  intro found u read
  cases found with
  | none => simp
  | some row =>
    obtain ⟨present, pending⟩ := read row rfl
    rw [Proc.meets_bind]
    apply (matchInflow_keeps present pending).imp _ fun _ _ h => h
    rintro now v payable matched same
    obtain rfl := Option.some.inj same
    exact payable

theorem activateLoan_keeps {loanId : Nat} {collateralReceivedAt : Time} {w : World}
    (payable : Payable loanId w) :
    Keeps serial (fun _ => HasStatus loanId .active) (activateLoan loanId collateralReceivedAt) w := by
  obtain ⟨waiting, closed⟩ := payable
  rw [Keeps, activateLoan, Proc.meets_bind]
  apply read_keeps
  intro _ loan _ done
  have found : w.loans[loanId]? = some loan := by
    unfold findUniqueOrThrow at done
    split at done
    · rename_i row found
      obtain rfl := Except.ok.inj done
      exact found
    · cases done
  have pending : loan.status = .pendingCollateral :=
    HasStatus.unique ⟨loan, found, rfl⟩ waiting
  rw [if_neg (not_not.mpr pending), Proc.meets_bind]
  have activates : Keeps serial (fun _ => HasStatus loanId .active)
      (commit (.loanStatus loanId loan.status .active) (loanFree loanId) fun _ w =>
        (writeActivation loanId loan collateralReceivedAt w).map ((), ·)) w := by
    refine write_keeps trivial fun i _ t _ _ booked done => ?_
    obtain ⟨u, wrote, -, rfl⟩ := map_pair_ok.mp done
    have written := activation_written pending wrote
    obtain ⟨stored, row, held, active, rows⟩ := written.rows
    have moved : HasStatus loanId .active u := ⟨row, by rw [rows, getElem?_set_of_eq held], active⟩
    obtain ⟨loans, _, done⟩ := bind_ok.mp wrote
    obtain ⟨_, _, rfl⟩ := LoanStatusService.transition_ok done
    exact ⟨booked.moved written rfl (.inr closed), .of_eq rfl rfl, moved⟩
  apply activates.imp _ fun _ _ h => h
  exact fun _ t active => read_keeps fun _ _ _ _ => active

theorem handleLoanCollateral_keeps {loanId userId : Nat} {matchedAt : Time} {w : World}
    (payable : Payable loanId w) :
    Keeps serial (fun _ _ => True) (handleLoanCollateral 0 loanId userId matchedAt) w := by
  rw [Keeps, handleLoanCollateral, Proc.meets_bind]
  apply (activateLoan_keeps payable).imp _ fun _ _ h => h
  intro _ t active
  rw [Proc.meets_bind]
  apply read_keeps
  intro _ paidOut _ _
  cases paidOut with
  | true => trivial
  | false =>
    simp only [Bool.false_eq_true, if_false, Proc.meets_bind]
    apply read_keeps
    intro _ read _ _
    have creates : Keeps serial (fun id => ForActive id)
        (createForLoan (disbursementRow loanId read.1 read.2)) t := by
      refine write_keeps active fun i id u _ _ booked done => ?_
      obtain ⟨rfl, rfl⟩ := Prod.mk.inj (Except.ok.inj done)
      exact ⟨booked.of_eq rfl rfl, .of_eq rfl rfl, _, List.getElem?_concat_length, active⟩
    apply creates.imp _ fun _ _ h => h
    exact fun id u target => serial_rules.dispatch id u target

theorem processVerified_keeps (ownAccount : String) (parsed : Option BlinkWebhookPayload)
    (w : World) : Keeps serial (fun _ _ => True) (processVerified 0 ownAccount parsed) w := by
  exact processVerified_meets (fun _ _ _ _ => ingest_keeps)
    fun _ _ _ _ matched _ => handleLoanCollateral_keeps (matched _ rfl)

theorem procedure_keeps (op : Operation) (w : World) :
    Keeps serial (fun _ _ => True) (procedure op) w := by
  cases op with
  | checkoutLoan user dto =>
    rw [Keeps, procedure, Proc.meets_bind]
    exact (checkoutLoan_keeps user dto w).imp (fun _ _ _ => trivial) fun _ _ h => h
  | cancelLoan userId loanId => exact cancelLoan_keeps userId loanId w
  | runExpiryCycle rows => exact runExpiryCycle_keeps rows w
  | runLiquidationCycle sellOf sendEmail rows =>
    exact runLiquidationCycle_keeps sellOf sendEmail rows w
  | creditInflow params =>
    rw [Keeps, procedure, Proc.meets_bind]
    exact (creditInflow_keeps params w).imp (fun _ _ _ => trivial) fun _ _ h => h
  | collateralWebhook ownAccount parsed =>
    rw [Keeps, procedure, Proc.meets_bind]
    exact (processVerified_keeps ownAccount parsed w).imp (fun _ _ _ => trivial) fun _ _ h => h

theorem booked_of_unrequested {w : World} (unrequested : w.paymentRequests = []) : Booked w := by
  have none (id : Nat) (request : PaymentRequest) : w.paymentRequests[id]? ≠ some request := by
    simp [unrequested]
  exact ⟨fun id request found => absurd found (none id request),
    fun a _ first _ found => absurd found (none a first),
    fun id request found => absurd found (none id request)⟩

/-- In a run that matches no payment to a CANCELLED loan, only ACTIVE loans are paid out. -/
theorem active_when_paid_out {w₀ w : World} {trace : List (Event World Answer Access)}
    (unrequested : w₀.paymentRequests = []) (run : SerialRuns procedure w₀ trace w)
    (matches_ : ∀ e ∈ trace, payable e.label e.answer e.before = true) :
    ∀ e ∈ trace, ActiveAt e.label e.before := by
  have held := run.holds (fun _ => rfl) (booked_of_unrequested unrequested)
    (fun op w _ => procedure_keeps op w) matches_
  exact fun e member => (held.2 e member).2.2

def bankAccount : DisbursementAccount where
  userId := 0
  kind := .bank
  providerName := "GTBank"
  providerCode := "058"
  accountUnique := "0123456789"
  accountHolderName := none
  isDefault := true
  status := .verified

def banked : World where
  disbursementAccounts := [bankAccount]

def checkout : Operation := .checkoutLoan { id := 0 } { principalNgn := 100000 }

def checkoutAnswers : List Answer :=
  [{}, {}, { rate := some (3 / 5), btcUsdRate := some 90000 }, {},
    { text := "hash", message := some "lnbc" }, {}, {}, {}]

def collateralPaid : BlinkWebhookPayload where
  accountId := "own"
  eventType := "receive.lightning"
  paymentHash := some "hash"
  txHash := none
  settlementAmount := 277778

def delivery : Operation := .collateralWebhook "own" (some collateralPaid)

theorem paid_out_when_active : ∃ trace w, SerialRuns procedure banked trace w ∧
    w.disbursements.map (·.status) = [.processing] ∧
    ∀ e ∈ trace, ActiveAt e.label e.before := by
  have played := exists_serialRun procedure banked
    [(checkout, checkoutAnswers), (delivery, List.replicate 16 {})]
    (fun trace w => decide (w.disbursements.map (·.status) = [.processing]) &&
      trace.all fun e => payable e.label e.answer e.before) (by decide +kernel)
  obtain ⟨trace, w, run, checked⟩ := played
  obtain ⟨rows, matches_⟩ := (Bool.and_eq_true _ _).mp checked
  exact ⟨trace, w, run, of_decide_eq_true rows,
    active_when_paid_out rfl run (List.all_eq_true.mp matches_)⟩

/-- The request of a cancelled loan is still PENDING when its payment arrives. -/
theorem cancelled_loan_paid_out : ∃ trace w, SerialRuns procedure banked trace w ∧
    ¬ ∀ e ∈ trace, ActiveAt e.label e.before := by
  have played := exists_serialRun procedure banked
    [(checkout, checkoutAnswers), (.cancelLoan 0 0, List.replicate 2 {}),
      (delivery, List.replicate 14 {})]
    (fun trace _ => trace.any fun e => decide (e.label = .createDisbursement 0) &&
      decide (e.before.loans.map (·.status) = [.cancelled])) (by decide +kernel)
  obtain ⟨trace, w, run, checked⟩ := played
  obtain ⟨e, member, created⟩ := List.any_eq_true.mp checked
  obtain ⟨label, rows⟩ := (Bool.and_eq_true _ _).mp created
  refine ⟨trace, w, run, fun active => ?_⟩
  have here := active e member
  rw [of_decide_eq_true label] at here
  obtain ⟨loan, found, paidOut⟩ := here
  obtain ⟨only, single, cancelled⟩ := List.map_eq_singleton_iff.mp (of_decide_eq_true rows)
  rw [single] at found
  obtain rfl := Option.some.inj found
  rw [cancelled] at paidOut
  cases paidOut

end Bitmonie.ActivePayout
