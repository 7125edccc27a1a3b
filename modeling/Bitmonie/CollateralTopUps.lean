import Bitmonie.CollateralBacking

/-! Top-ups of the collateral of an active loan, next to the loan system, and what becomes of
one that is paid. -/
namespace Bitmonie.CollateralTopUps
open LoansService PaymentRequestsService BlinkWebhook
open CollateralBacking (Grows Backed Initial Reports look_backed procedure_backed
  processVerified_backed found_of_prefix)
open PayoutRules (Keeps)

inductive TopUpStatus where
  | pendingCollateral
  | received
  | expired
  | cancelled
  deriving DecidableEq, Repr

/-- What was received is written nowhere. -/
structure CollateralTopUp where
  loanId : Nat
  collateralProvider : String
  collateralProviderRef : String
  paymentRequest : String
  receivingAddress : String
  expectedAmountSat : Nat
  expiresAt : Time
  status : TopUpStatus

structure Backend where
  world : World
  topUps : List CollateralTopUp := []
  /-- `collateral_topup:pending`, with the seconds that an entry is kept for -/
  topUpPending : String → Option (Nat × Int) := fun _ => none

inductive TopUpAccess where
  | createTopUp (loanId : Nat)
  | redis

abbrev BackendAccess := Access ⊕ TopUpAccess

inductive TopUpError where
  | loan (error : AppError)
  | addCollateralAlreadyPending
  deriving DecidableEq

def TopUpError.exception : TopUpError → Option BitmonieException
  | .loan error => error.exception
  | .addCollateralAlreadyPending => some ⟨"ADD_COLLATERAL_ALREADY_PENDING",
      "A collateral top-up is already pending for this loan. Wait for it to expire or be received.",
      409, []⟩

abbrev TopUpAction := Proc Backend Answer BackendAccess TopUpError

def loanPart : Proc.Part World Answer Access AppError Backend Answer BackendAccess TopUpError where
  get b := b.world
  set b world := { b with world }
  answer := id
  label := .inl
  error := .loan
  get_set _ _ := rfl

def onLoans {α : Type} (p : Action α) : TopUpAction α := p.zoom loanPart

def topUpStatement {α : Type} (label : TopUpAccess)
    (f : Answer → Backend → Except TopUpError (α × Backend)) : TopUpAction α :=
  .access (.inr label) (fun _ => true) fun i b =>
    if i.fails then (.error (.loan .unavailable), b)
    else match f i b with
      | .error e => (.error e, b)
      | .ok (a, b') => (if i.lost then .error (.loan .unavailable) else .ok a, b')

def collateralTopUpExpirySec : Int := 1800
def topUpCacheGraceSec : Int := 5 * 60

structure CollateralTopUpResult where
  topUpId : Nat
  loanId : Nat
  paymentRequest : String
  paymentUri : String
  receivingAddress : String
  expiresAt : Time

def createNoAmountInvoice : Action CollateralInvoice :=
  query fun i _ => .ok ⟨i.text, i.message.getD "", i.text, i.now + collateralTopUpExpirySec * 1000⟩

/-- The payer chooses the amount. -/
def topUpRow (loanId : Nat) (invoice : CollateralInvoice) : CollateralTopUp where
  loanId := loanId
  collateralProvider := "blink"
  collateralProviderRef := invoice.providerReference
  paymentRequest := invoice.paymentRequest
  receivingAddress := invoice.receivingAddress
  expectedAmountSat := 0
  expiresAt := invoice.expiresAt
  status := .pendingCollateral

/-- `collateral_topups_loan_id_pending_unique`, and the reference is unique. -/
def clashes (row other : CollateralTopUp) : Bool :=
  (other.loanId = row.loanId && other.status = .pendingCollateral) ||
    other.collateralProviderRef = row.collateralProviderRef

def insertTopUp (row : CollateralTopUp) : TopUpAction Nat :=
  topUpStatement (.createTopUp row.loanId) fun _ b =>
    if b.topUps.any (clashes row) then .error (.loan .uniqueViolation)
    else .ok (b.topUps.length, { b with topUps := b.topUps ++ [row] })

def setTopUpPending (invoice : CollateralInvoice) (topUpId : Nat) : TopUpAction Unit :=
  topUpStatement .redis fun i b =>
    let ttlSec := ⌈((invoice.expiresAt - i.now : Int) : ℚ) / 1000⌉ + topUpCacheGraceSec
    let entry := some (topUpId, max ttlSec 1)
    .ok ((), { b with
      topUpPending := Function.update b.topUpPending invoice.receivingAddress entry })

def topUpResult (loanId topUpId : Nat) (invoice : CollateralInvoice) : CollateralTopUpResult where
  topUpId := topUpId
  loanId := loanId
  paymentRequest := invoice.paymentRequest
  paymentUri := if invoice.paymentRequest = "" then "" else "lightning:" ++ invoice.paymentRequest
  receivingAddress := invoice.receivingAddress
  expiresAt := invoice.expiresAt

def createCollateralTopUp (userId loanId : Nat) : TopUpAction CollateralTopUpResult :=
  (onLoans (query fun _ w => findLoan userId loanId w)).bind fun loan =>
  if loan.status ≠ .active then .throw (.loan (.loanNotActive loan.status))
  else
    (onLoans (createNoAmountInvoice.catching fun _ => .throw .collateralInvoiceFailed)).bind
      fun invoice =>
    ((insertTopUp (topUpRow loanId invoice)).catching fun e =>
      .throw (if e = .loan .uniqueViolation then .addCollateralAlreadyPending else e)).bind
      fun topUpId =>
    (setTopUpPending invoice topUpId).bind fun _ =>
    .pure (topUpResult loanId topUpId invoice)

inductive Operation where
  | createCollateralTopUp (userId loanId : Nat)
  | deliver (ownAccount : String) (payload : BlinkWebhookPayload)
  | loans (operation : CollateralBacking.Operation)

inductive Ended where
  | toppedUp (topUp : CollateralTopUpResult)
  | delivered (payload : BlinkWebhookPayload) (outcome : HandlerOutcome)
  | done

def procedure (tid : Nat) : Operation → TopUpAction Ended
  | .createCollateralTopUp userId loanId =>
    (createCollateralTopUp userId loanId).bind fun topUp => .pure (.toppedUp topUp)
  | .deliver ownAccount payload =>
    (onLoans (processVerified tid ownAccount (some payload))).bind fun outcome =>
    .pure (.delivered payload outcome)
  | .loans operation => (onLoans (CollateralBacking.procedure tid operation)).bind fun _ => .pure .done

abbrev anyAmount (_ : String) (_ : ℚ) : Prop := True

def Grown (s t : Backend) : Prop := Grows s.world t.world ∧ s.topUps <+: t.topUps

def growing : Discipline Backend Answer BackendAccess where
  inv b := Backed anyAmount b.world
  allowed _ _ _ := True
  fresh _ _ := True
  rely _ := Grown
  guar _ _ _ := Grown

theorem Grown.refl (b : Backend) : Grown b b := ⟨Grows.refl b.world, List.prefix_rfl⟩

theorem Grown.trans {r s t : Backend} (first : Grown r s) (second : Grown s t) : Grown r t :=
  ⟨first.1.trans second.1, first.2.trans second.2⟩

theorem growing_sound : growing.Sound where
  refl _ := Grown.refl
  trans _ _ _ _ := Grown.trans
  compatible _ _ _ _ _ _ _ _ grown := grown
  fresh _ _ _ _ _ := trivial

def Waiting (topUpId loanId : Nat) (b : Backend) : Prop :=
  ∃ topUp, b.topUps[topUpId]? = some topUp ∧ topUp.loanId = loanId ∧
    topUp.status = .pendingCollateral

theorem Waiting.mono {topUpId loanId : Nat} {s t : Backend} (grown : Grown s t)
    (waiting : Waiting topUpId loanId s) : Waiting topUpId loanId t := by
  obtain ⟨topUp, found, rest⟩ := waiting
  obtain ⟨added, whole⟩ := grown.2
  refine ⟨topUp, ?_, rest⟩
  rw [← whole, List.getElem?_append_left (List.getElem?_eq_some_iff.mp found).1, found]

section Meets
variable {tid : Nat} {b : Backend}

theorem onLoans_grows {α : Type} {p : Action α}
    (backed : ∀ w, Keeps (CollateralBacking.contract anyAmount tid) (fun _ _ => True) p w) :
    (onLoans p).Complies (growing.contract tid) := by
  intro b
  let kept (_ : Backend) : Prop := True
  have start : kept b := trivial
  have meets : p.Meets (CollateralBacking.contract anyAmount tid) (fun _ _ => True) (fun _ _ => True)
      (loanPart.get b) := backed b.world
  have zoomed : (onLoans p).Meets (growing.contract tid) (fun _ t => True ∧ kept t) (fun _ => kept) b := by
    refine Proc.Meets.zoom ?_ ?_ ?_ start meets
    · exact fun s t grown _ => ⟨grown.1, trivial⟩
    · exact fun label i t inv _ _ => ⟨inv, trivial⟩
    · exact fun label i t u _ _ backed grows => ⟨backed, ⟨grows, List.prefix_rfl⟩, trivial⟩
  exact zoomed.imp (fun _ _ _ => trivial) fun _ _ _ => trivial

/-- A statement that only adds top-ups. -/
theorem topUpStatement_meets {α : Type} {label : TopUpAccess} {post : α → Backend → Prop}
    {f : Answer → Backend → Except TopUpError (α × Backend)}
    (writes : ∀ i s a t, Grown b s → f i s = .ok (a, t) →
      t.world = s.world ∧ s.topUps <+: t.topUps ∧ post a t) :
    (topUpStatement label f).Meets (growing.contract tid) post (fun _ _ => True) b := by
  rw [topUpStatement, Proc.meets_access]
  intro s grown backed _ i _
  cases i.fails with
  | true => exact ⟨backed, Grown.refl s, trivial⟩
  | false =>
    simp only [Bool.false_eq_true, if_false]
    rcases done : f i s with e | ⟨a, t⟩
    · exact ⟨backed, Grown.refl s, trivial⟩
    obtain ⟨world, added, ends⟩ := writes i s a t grown done
    have kept : Backed anyAmount t.world := world ▸ backed
    have grows : Grows s.world t.world := world ▸ Grows.refl s.world
    refine ⟨kept, ⟨grows, added⟩, ?_⟩
    cases i.lost with
    | true => trivial
    | false => exact ends

theorem insertTopUp_meets {row : CollateralTopUp} (pending : row.status = .pendingCollateral) :
    (insertTopUp row).Meets (growing.contract tid) (fun topUpId => Waiting topUpId row.loanId)
      (fun _ _ => True) b := by
  refine topUpStatement_meets fun i s topUpId t _ done => ?_
  split at done
  · cases done
  obtain ⟨rfl, rfl⟩ := Prod.mk.inj (Except.ok.inj done)
  exact ⟨rfl, List.prefix_append .., row, List.getElem?_concat_length, rfl, pending⟩

theorem createCollateralTopUp_meets {userId loanId : Nat} :
    (createCollateralTopUp userId loanId).Meets (growing.contract tid)
      (fun topUp => Waiting topUp.topUpId topUp.loanId) (fun _ _ => True) b := by
  refine (onLoans_grows (fun _ => look_backed) b).seq fun loan s _ => ?_
  split
  · trivial
  have asks : (onLoans (createNoAmountInvoice.catching fun _ =>
      .throw .collateralInvoiceFailed)).Complies (growing.contract tid) := by
    refine onLoans_grows fun w => ?_
    rw [Keeps, Proc.meets_catching]
    exact look_backed.imp (fun _ _ _ => trivial) fun _ _ _ => trivial
  refine (asks s).seq fun invoice t _ => ?_
  rw [Proc.meets_bind, Proc.meets_catching]
  refine (insertTopUp_meets rfl).imp ?_ fun _ _ _ => trivial
  intro topUpId u waiting
  have caches : (setTopUpPending invoice topUpId).Meets (growing.contract tid)
      (fun _ => Waiting topUpId loanId) (fun _ _ => True) u := by
    refine topUpStatement_meets fun i v _ v' grown done => ?_
    obtain ⟨_, rfl⟩ := Prod.mk.inj (Except.ok.inj done)
    exact ⟨rfl, List.prefix_rfl, waiting.mono grown⟩
  exact caches.seq fun _ _ waiting => waiting

theorem reports_anyAmount (operation : CollateralBacking.Operation) : Reports anyAmount operation := by
  cases operation with
  | collateralWebhook ownAccount parsed =>
    cases parsed with
    | none => trivial
    | some payload => exact fun _ _ => trivial
  | upsertInflow row => trivial
  | _ => trivial

def Left (ended : Ended) (b : Backend) : Prop :=
  match ended with
  | .toppedUp topUp => Waiting topUp.topUpId topUp.loanId b
  | _ => True

theorem Left.mono {ended : Ended} {s t : Backend} (grown : Grown s t) (left : Left ended s) :
    Left ended t := by
  cases ended with
  | toppedUp topUp => exact Waiting.mono grown left
  | delivered payload outcome => trivial
  | done => trivial

theorem procedure_meets {operation : Operation} :
    (procedure tid operation).Meets (growing.contract tid) Left (fun _ _ => True) b := by
  cases operation with
  | createCollateralTopUp userId loanId =>
    exact createCollateralTopUp_meets.seq fun topUp _ waiting => waiting
  | deliver ownAccount payload =>
    have handled : Reports anyAmount (.collateralWebhook ownAccount (some payload)) :=
      reports_anyAmount _
    refine (onLoans_grows (fun _ => ?_) b).seq fun _ _ _ => trivial
    exact (processVerified_backed ownAccount (some payload) handled).imp (fun _ _ _ => trivial)
      fun _ _ _ => trivial
  | loans operation =>
    refine (onLoans_grows (fun _ => ?_) b).seq fun _ _ _ => trivial
    exact procedure_backed ⟨operation, reports_anyAmount operation⟩

end Meets

def served (b : Backend) : Contract Backend Answer BackendAccess where
  inv t := t = b
  allowed _ i _ := i.fails = false
  rely := Eq
  guar _ _ _ _ := True

def servedLoans (w : World) : Contract World Answer Access where
  inv t := t = w
  allowed _ i _ := i.fails = false
  rely := Eq
  guar _ _ _ _ := True

theorem onLoans_served {α : Type} {p : Action α} {post : α → Prop} {b : Backend}
    (meets : p.Meets (servedLoans b.world) (fun a _ => post a) (fun _ _ => False) b.world) :
    (onLoans p).Meets (served b) (fun a t => post a ∧ t = b) (fun _ _ => False) b := by
  let kept (t : Backend) : Prop := t = b
  have start : kept b := rfl
  have here : p.Meets (servedLoans b.world) (fun a _ => post a) (fun _ _ => False)
      (loanPart.get b) := meets
  have zoomed : (onLoans p).Meets (served b) (fun a t => post a ∧ kept t)
      (fun e t => (∃ e', e = .loan e' ∧ False) ∧ kept t) b := by
    refine Proc.Meets.zoom_throws ?_ ?_ ?_ start here
    · rintro s t rfl same
      exact ⟨rfl, same⟩
    · rintro label i t rfl _ made
      exact ⟨rfl, made⟩
    · rintro label i t u rfl _ rfl _
      exact ⟨rfl, trivial, rfl⟩
  exact zoomed.imp (fun _ _ ended => ended) fun _ _ ended => by simp at ended

theorem query_served {α : Type} {f : Answer → World → Except AppError α} {post : α → Prop} {w : World}
    (reads : ∀ i, ∃ a, f i w = .ok a ∧ post a) :
    (query f).Meets (servedLoans w) (fun a _ => post a) (fun _ _ => False) w := by
  rw [query, queryAs, Proc.meets_access]
  rintro t rfl _ _ i made
  obtain ⟨a, done, holds⟩ := reads i
  have made : i.fails = false := made
  simp only [made, Bool.false_eq_true, if_false, done]
  exact ⟨rfl, trivial, holds⟩

/-- The index refuses it while the first row waits for its payment. -/
theorem next_topUp_refused {b : Backend} {topUpId loanId : Nat} {loan : Loan} {answers : List Answer}
    {f : Finished Backend Answer BackendAccess TopUpError CollateralTopUpResult}
    (waiting : Waiting topUpId loanId b) (found : b.world.loans[loanId]? = some loan)
    (active : loan.status = .active)
    (done : (createCollateralTopUp loan.userId loanId).exec answers b = some f)
    (made : ∀ e ∈ f.trace, e.answer.fails = false) :
    f.result = .error .addCollateralAlreadyPending ∧ f.state = b := by
  have reads : (onLoans (query fun _ w => findLoan loan.userId loanId w)).Meets (served b)
      (fun read t => read = loan ∧ t = b) (fun _ _ => False) b :=
    onLoans_served (query_served fun i => ⟨loan, by simp [findLoan, found], rfl⟩)
  have asks : (onLoans (createNoAmountInvoice.catching fun _ => .throw .collateralInvoiceFailed)).Meets
      (served b) (fun _ t => True ∧ t = b) (fun _ _ => False) b := by
    refine onLoans_served ?_
    rw [Proc.meets_catching]
    have asks : createNoAmountInvoice.Meets (servedLoans b.world) (fun _ _ => True)
        (fun _ _ => False) b.world := query_served fun i => ⟨_, rfl, trivial⟩
    exact asks.imp (fun _ _ h => h) fun _ _ h => h.elim
  have clash (invoice : CollateralInvoice) : b.topUps.any (clashes (topUpRow loanId invoice)) = true := by
    obtain ⟨topUp, there, same, pending⟩ := waiting
    refine List.any_eq_true.mpr ⟨topUp, List.mem_of_getElem? there, ?_⟩
    simp [clashes, topUpRow, same, pending]
  have meets : (createCollateralTopUp loan.userId loanId).Meets (served b) (fun _ _ => False)
      (fun e t => e = .addCollateralAlreadyPending ∧ t = b) b := by
    rw [createCollateralTopUp, Proc.meets_bind]
    apply reads.imp _ fun _ _ h => h.elim
    rintro _ _ ⟨rfl, rfl⟩
    rw [if_neg (not_not.mpr active), Proc.meets_bind]
    apply asks.imp _ fun _ _ h => h.elim
    rintro invoice _ ⟨_, rfl⟩
    rw [Proc.meets_bind, Proc.meets_catching, insertTopUp, topUpStatement, Proc.meets_access]
    rintro t rfl _ _ i made
    have made : i.fails = false := made
    simp only [made, clash invoice, Bool.false_eq_true, if_false, if_true]
    exact ⟨rfl, trivial, rfl, rfl⟩
  have ended := (meets.exec (fun _ => rfl) rfl done made).2.2
  unfold Finished.Ends at ended
  cases result : f.result with
  | ok topUp => simp [result] at ended
  | error e =>
    simp only [result] at ended
    exact ⟨congrArg Except.error ended.1, ended.2⟩

def GrownBy (amount : ℚ) (loanId : Nat) (s t : World) : Prop :=
  ∃ before after : Loan, s.loans[loanId]? = some before ∧ t.loans[loanId]? = some after ∧
    (after.collateralAmountSat : ℚ) = before.collateralAmountSat + amount

theorem not_grownBy {s t : World} {amount : ℚ} {loanId : Nat} (grows : Grows s t)
    (positive : 0 < amount) : ¬ GrownBy amount loanId s t := by
  rintro ⟨before, after, found, found', grown⟩
  obtain ⟨later, there, same⟩ := found_of_prefix grows.loans found
  obtain rfl := Option.some.inj (found'.symm.trans there)
  rw [same] at grown
  linarith

/-- Whatever is received for a top-up, the collateral of its loan has not grown by it at any
later point, and while the loan is active the next top-up is refused. -/
theorem topUp_never_credited {b₀ : Backend} {trace : List (Nat × Event Backend Answer BackendAccess)}
    {c : Config Backend Answer BackendAccess TopUpError Ended} {tid : Nat}
    {topUp : CollateralTopUpResult} (initial : Initial anyAmount b₀.world)
    (run : Runs procedure b₀ trace c) (created : c.pool[tid]? = some (.pure (.toppedUp topUp))) :
    (∀ first rest received, trace = first ++ rest → 0 < received →
      ¬ GrownBy received topUp.loanId (stateAfter b₀ first).world c.shared.world) ∧
    ∀ loan answers f, c.shared.world.loans[topUp.loanId]? = some loan → loan.status = .active →
      (createCollateralTopUp loan.userId topUp.loanId).exec answers c.shared = some f →
      (∀ e ∈ f.trace, e.answer.fails = false) → f.result = .error .addCollateralAlreadyPending := by
  have held : growing.Holds (fun _ => Left) (fun _ _ _ => True) trace c :=
    run.holds growing_sound (fun _ _ _ _ => Left.mono) (fun _ _ _ _ _ h => h) initial.backed
      (fun _ => trivial) (fun _ _ _ _ _ => procedure_meets) fun _ _ => trivial
  constructor
  · intro first rest received split positive
    have grown : Grown (stateAfter b₀ first) c.shared :=
      run.keeps (Grown (stateAfter b₀ first)) (fun e member before => before.trans (held.events e member).2.2)
        split (.refl _)
    exact not_grownBy grown.1 positive
  · intro loan answers f found active done made
    have waiting : Waiting topUp.topUpId topUp.loanId c.shared := held.pool tid _ created
    exact (next_topUp_refused waiting found active done made).1

def topUpPaid : BlinkWebhookPayload :=
  { ActivePayout.collateralPaid with paymentHash := some "top-up", settlementAmount := 5000 }

/-- A loan is paid out, topped up, and the payment is delivered; then another top-up is asked for. -/
def toppedUpAndPaid : List (Choice Operation Answer) :=
  .start (.loans CollateralBacking.opensLoan) :: ActivePayout.checkoutAnswers.map (.run 0) ++
    .start (.deliver "own" ActivePayout.collateralPaid) :: List.replicate 16 (.run 1 {}) ++
    .start (.createCollateralTopUp 0 0) :: List.replicate 4 (.run 2 { text := "top-up" }) ++
    .start (.deliver "own" topUpPaid) :: List.replicate 3 (.run 3 {}) ++
    .start (.createCollateralTopUp 0 0) :: List.replicate 3 (.run 4 { text := "second" })

def opening : Backend where
  world := ActivePayout.banked

def toppedUp : Proc Backend Answer BackendAccess TopUpError Ended → Option CollateralTopUpResult
  | .pure (.toppedUp topUp) => some topUp
  | _ => none

def deliveredAmount : Proc Backend Answer BackendAccess TopUpError Ended → Option ℚ
  | .pure (.delivered payload _) => if payload.paymentHash = some "top-up" then
      some payload.settlementAmount else none
  | _ => none

def refusal : Proc Backend Answer BackendAccess TopUpError Ended → Option TopUpError
  | .throw e => some e
  | _ => none

theorem toppedUp_some {p : Proc Backend Answer BackendAccess TopUpError Ended}
    {topUp : CollateralTopUpResult} (ended : toppedUp p = some topUp) : p = .pure (.toppedUp topUp) := by
  unfold toppedUp at ended
  split at ended
  · rw [Option.some.inj ended]
  · cases ended

theorem topUp_never_credited_sample : ∃ trace c topUp, Runs procedure opening trace c ∧
    c.pool[2]? = some (.pure (.toppedUp topUp)) ∧
    ∀ first rest, trace = first ++ rest →
      ¬ GrownBy 5000 topUp.loanId (stateAfter opening first).world c.shared.world := by
  obtain ⟨trace, c, run, checked⟩ := exists_run procedure opening toppedUpAndPaid
    (fun _ c => ((c.pool[2]?).bind toppedUp).isSome) (by decide +kernel)
  obtain ⟨topUp, created⟩ := Option.isSome_iff_exists.mp checked
  obtain ⟨p, found, ended⟩ := Option.bind_eq_some_iff.mp created
  obtain rfl := toppedUp_some ended
  have initial : Initial anyAmount opening.world := ⟨rfl, rfl, fun _ => rfl, fun _ _ => trivial⟩
  refine ⟨trace, c, topUp, run, found, fun first rest split => ?_⟩
  exact (topUp_never_credited initial run found).1 first rest 5000 split (by norm_num)

/-- The payment is delivered after 28 accesses; the loan is active at the end. -/
def unpaidAndRefused (trace : List (Nat × Event Backend Answer BackendAccess))
    (c : Config Backend Answer BackendAccess TopUpError Ended) : Bool :=
  ((c.pool[2]?).bind toppedUp).any (fun topUp => topUp.loanId = 0 &&
    topUp.receivingAddress = "top-up") &&
  (c.pool[3]?).bind deliveredAmount = some 5000 &&
  (c.pool[4]?).bind refusal = some .addCollateralAlreadyPending &&
  (stateAfter opening (trace.take 28)).world.loans.map (·.collateralAmountSat) = [277778] &&
  c.shared.world.loans.map (fun loan => (loan.collateralAmountSat, loan.status)) = [(277778, .active)]

theorem topUp_uncredited : ∃ trace c first rest topUp loan, Runs procedure opening trace c ∧
    trace = first ++ rest ∧ (c.pool[2]?).bind toppedUp = some topUp ∧
    topUp.receivingAddress = "top-up" ∧ (c.pool[3]?).bind deliveredAmount = some 5000 ∧
    ¬ GrownBy 5000 topUp.loanId (stateAfter opening first).world c.shared.world ∧
    c.shared.world.loans[topUp.loanId]? = some loan ∧ loan.status = .active ∧
    (c.pool[4]?).bind refusal = some .addCollateralAlreadyPending := by
  obtain ⟨trace, c, run, checked⟩ := exists_run procedure opening toppedUpAndPaid unpaidAndRefused
    (by decide +kernel)
  simp only [unpaidAndRefused, Bool.and_eq_true, Option.any_eq_true, decide_eq_true_eq] at checked
  obtain ⟨⟨⟨⟨⟨topUp, created, same, address⟩, delivered⟩, refused⟩, before⟩, after⟩ := checked
  obtain ⟨loan, loans, ended⟩ := List.map_eq_singleton_iff.mp after
  obtain ⟨sized, active⟩ := Prod.mk.inj ended
  refine ⟨trace, c, trace.take 28, trace.drop 28, topUp, loan, run, (List.take_append_drop ..).symm,
    created, address, delivered, ?_, by simp [loans, same], active, refused⟩
  rintro ⟨old, new, found, found', grown⟩
  obtain ⟨only, rows, sizedBefore⟩ := List.map_eq_singleton_iff.mp before
  rw [same, rows] at found
  rw [same, loans] at found'
  obtain rfl : only = old := by simpa using found
  obtain rfl : loan = new := by simpa using found'
  rw [sized, sizedBefore] at grown
  norm_num at grown

end Bitmonie.CollateralTopUps
