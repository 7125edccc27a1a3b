import Bitmonie.CollectionLedger

/-! Which collections may reach a loan. A repayment should rest on an order that PalmPay
confirmed, and an inflow of a delivery that ended untrusted should stay with ops. Both hang
on one marker, which is written when a row is first stored and never after. -/
namespace Bitmonie.CollectionTrust
open LoansService PalmpayProvider PalmpayCollectionVaWebhook LoanStatusService OpsAlertsService
  WebhooksLogService CollectionLedger

def Confirmed (orderNo : String) (amountNgn : ℚ) (virtualAccountNo : String) (w : World) : Prop :=
  ∃ order ∈ w.confirmed, order.orderNo = orderNo ∧ (order.orderAmount : ℚ) / 100 = amountNgn ∧
    order.virtualAccountNo = some virtualAccountNo

/-- The inflow's order was confirmed for this amount and the account of the inflow. -/
def ConfirmedCredit (inflowId : Nat) (amountNgn : ℚ) (w : World) : Prop :=
  ∃ inflow, w.inflows[inflowId]? = some inflow ∧
    Confirmed inflow.providerReference amountNgn inflow.receivingAddress w

/-- Credits rest on confirmed orders, and so does every row without a reason. -/
structure OnConfirmed (w : World) : Prop where
  credits : ∀ r ∈ w.repayments, ConfirmedCredit r.inflowId r.amountNgn w
  rows : ∀ inflow ∈ w.inflows, inflow.currency = .ngn → inflow.unmatchedReason = none →
    Confirmed inflow.providerReference inflow.amount inflow.receivingAddress w

def Closed (inflow : Inflow) : Prop := inflow.isMatched = true ∨ untrusted inflow = true

def AsideClosed (w : World) : Prop :=
  ∀ orderNo ∈ w.setAside, isStored orderNo w = true ∧
    ∀ inflow ∈ w.inflows, inflow.providerReference = orderNo → Closed inflow

def Used (w : World) : Prop :=
  ∀ (id : Nat) (inflow : Inflow), w.inflows[id]? = some inflow → inflow.currency = .ngn →
    inflow.isMatched = true → ∃ r ∈ w.repayments, r.inflowId = id

def NotAside (s t : World) : Prop :=
  ∀ r ∈ t.repayments, r ∉ s.repayments → r.matchMethod = .customerClaim →
    ∀ inflow, s.inflows[r.inflowId]? = some inflow → inflow.providerReference ∉ s.setAside

/-- Rows keep what they were stored with, and confirmations are kept. -/
structure Kept (s t : World) : Prop where
  inflow : ∀ (id : Nat) (inflow : Inflow), s.inflows[id]? = some inflow →
    ∃ inflow', t.inflows[id]? = some inflow' ∧
      inflow'.providerReference = inflow.providerReference ∧
      inflow'.receivingAddress = inflow.receivingAddress ∧
      inflow'.currency = inflow.currency ∧ inflow'.unmatchedReason = inflow.unmatchedReason
  confirmed : ∀ order ∈ s.confirmed, order ∈ t.confirmed

/-- A customer who passes the checks credits a row that was stored without a reason. -/
def claimsVerified : Access → Answer → World → Bool
  | .findInflow userId inflowId, i, w =>
    i.fails || match findInflow userId inflowId w with
      | .ok inflow => inflow.isMatched || untrusted inflow || inflow.unmatchedReason.isNone
      | .error _ => true
  | _, _, _ => true

/-- A delivery whose upsert finds its order unmatched names the account that is stored. -/
def sameAccount : Access → Answer → World → Bool
  | .upsertInflow orderNo _ _ receivingAddress, i, w =>
    i.fails || (findRow w.inflows fun inflow => inflow.providerReference = orderNo).all fun stored =>
      stored.2.isMatched || stored.2.receivingAddress = receivingAddress
  | _, _, _ => true

def closedRows (orderNo : String) (w : World) : Bool :=
  w.inflows.all fun inflow =>
    inflow.providerReference ≠ orderNo || inflow.isMatched || untrusted inflow

/-- A delivery that ends untrusted finds its order not stored, matched, or marked already. -/
def marked : Access → Answer → World → Bool
  | .storeUnmatchedInflow orderNo reason, _, w =>
    reason ∉ untrustedReasons || closedRows orderNo w
  | .alertOps (.unmatchedInflow orderNo .creditFailed), _, w => closedRows orderNo w
  | _, _, _ => true

/-- One contract for both: `confirming` and `aside` say which conditions are asked for. -/
def trust (confirming aside : Prop) : Discipline World Answer Access where
  inv w := Used w ∧ (confirming → OnConfirmed w) ∧ (aside → AsideClosed w)
  allowed label i w := (confirming → claimsVerified label i w = true ∧ sameAccount label i w = true) ∧
    (aside → marked label i w = true)
  fresh _ _ := True
  rely _ := Kept
  guar _ _ _ s t := Kept s t ∧ (aside → NotAside s t)

theorem Kept.refl (w : World) : Kept w w :=
  ⟨fun _ inflow found => ⟨inflow, found, rfl, rfl, rfl, rfl⟩, fun _ member => member⟩

theorem Kept.trans {r s t : World} (first : Kept r s) (second : Kept s t) : Kept r t where
  inflow id inflow found := by
    obtain ⟨inflow', found', order, account, currency, reason⟩ := first.inflow id inflow found
    obtain ⟨inflow'', found'', order', account', currency', reason'⟩ :=
      second.inflow id inflow' found'
    exact ⟨inflow'', found'', order'.trans order, account'.trans account,
      currency'.trans currency, reason'.trans reason⟩
  confirmed order member := second.confirmed order (first.confirmed order member)

theorem Confirmed.mono {orderNo virtualAccountNo : String} {amountNgn : ℚ} {s t : World}
    (kept : Kept s t) (confirmed : Confirmed orderNo amountNgn virtualAccountNo s) :
    Confirmed orderNo amountNgn virtualAccountNo t := by
  obtain ⟨order, member, here⟩ := confirmed
  exact ⟨order, kept.confirmed order member, here⟩

theorem ConfirmedCredit.mono {inflowId : Nat} {amountNgn : ℚ} {s t : World} (kept : Kept s t)
    (credit : ConfirmedCredit inflowId amountNgn s) : ConfirmedCredit inflowId amountNgn t := by
  obtain ⟨inflow, found, confirmed⟩ := credit
  obtain ⟨inflow', found', order, account, _⟩ := kept.inflow inflowId inflow found
  refine ⟨inflow', found', ?_⟩
  rw [order, account]
  exact confirmed.mono kept

theorem NotAside.of_eq {s t : World} (rows : t.repayments = s.repayments) : NotAside s t :=
  fun _ member fresh => absurd (rows ▸ member) fresh

section Contract
variable {confirming aside : Prop} {tid : Nat}

theorem trust_sound : (trust confirming aside).Sound where
  refl _ := Kept.refl
  trans _ _ _ _ := Kept.trans
  compatible _ _ _ _ _ _ _ _ guar := guar.1
  fresh _ _ _ _ _ := trivial

abbrev contract (confirming aside : Prop) (tid : Nat) : Contract World Answer Access :=
  (trust confirming aside).contract tid

/-- Any result will do; the contract binds the accesses. -/
abbrev Keeps (confirming aside : Prop) (tid : Nat) (p : Action α) (w : World) : Prop :=
  p.Meets (contract confirming aside tid) (fun _ _ => True) (fun _ _ => True) w

theorem still (label : Access) (i : Answer) (w : World) :
    (contract confirming aside tid).guar label i w w :=
  ⟨Kept.refl w, fun _ => .of_eq rfl⟩

theorem queryAs_trust {label : Access} {f : Answer → World → Except AppError α} {w : World}
    {post : α → World → Prop}
    (read : ∀ t i a, Kept w t → (contract confirming aside tid).inv t →
      (contract confirming aside tid).allowed label i t → i.fails = false → f i t = .ok a → post a t) :
    (queryAs label f).Meets (contract confirming aside tid) post (fun _ _ => True) w := by
  rw [queryAs, Proc.meets_access]
  intro t moved inv _ i allowed
  cases fails : i.fails with
  | true => exact ⟨inv, still label i t, trivial⟩
  | false =>
    refine ⟨inv, still label i t, ?_⟩
    cases result : f i t with
    | error e => trivial
    | ok a => exact read t i a moved inv allowed fails result

theorem query_trust {f : Answer → World → Except AppError α} {w : World} {post : α → World → Prop}
    (read : ∀ t i a, Kept w t → f i t = .ok a → post a t) :
    (query f).Meets (contract confirming aside tid) post (fun _ _ => True) w :=
  queryAs_trust fun t i a moved _ _ _ => read t i a moved

/-- Loans, locks and logs are no part of it. -/
theorem trust_congr {r s t : World} {label : Access} {i : Answer}
    (held : (contract confirming aside tid).inv s ∧ (contract confirming aside tid).guar label i r s)
    (inflows : t.inflows = s.inflows) (repayments : t.repayments = s.repayments)
    (orders : t.confirmed = s.confirmed) (set : t.setAside = s.setAside) :
    (contract confirming aside tid).inv t ∧ (contract confirming aside tid).guar label i r t := by
  obtain ⟨⟨used, onConfirmed, closed⟩, kept, notAside⟩ := held
  refine ⟨⟨?_, fun asked => ⟨?_, ?_⟩, fun asked => ?_⟩, ⟨?_, ?_⟩, fun asked => ?_⟩
  · simpa only [Used, inflows, repayments] using used
  · simpa only [ConfirmedCredit, Confirmed, inflows, repayments, orders] using
      (onConfirmed asked).credits
  · simpa only [Confirmed, inflows, orders] using (onConfirmed asked).rows
  · simpa only [AsideClosed, isStored, inflows, set] using closed asked
  · simpa only [inflows] using kept.inflow
  · simpa only [orders] using kept.confirmed
  · simpa only [NotAside, repayments] using notAside asked

theorem same_trust {s t : World} (label : Access) (i : Answer)
    (inv : (contract confirming aside tid).inv s) (inflows : t.inflows = s.inflows)
    (repayments : t.repayments = s.repayments) (orders : t.confirmed = s.confirmed)
    (set : t.setAside = s.setAside) :
    (contract confirming aside tid).inv t ∧ (contract confirming aside tid).guar label i s t :=
  trust_congr ⟨inv, still label i s⟩ inflows repayments orders set

/-- A new row under an order that was not stored. -/
theorem append_trust {s : World} (row : Inflow) (label : Access) (i : Answer)
    (unmatched : row.isMatched = false) (free : isStored row.providerReference s = false)
    (confirmed : confirming → row.unmatchedReason = none →
      Confirmed row.providerReference row.amount row.receivingAddress s)
    (inv : (contract confirming aside tid).inv s) :
    (contract confirming aside tid).inv { s with inflows := s.inflows ++ [row] } ∧
      (contract confirming aside tid).guar label i s { s with inflows := s.inflows ++ [row] } := by
  obtain ⟨used, onConfirmed, closed⟩ := inv
  have kept : Kept s { s with inflows := s.inflows ++ [row] } :=
    ⟨fun _ inflow found => ⟨inflow, concat_of_row found, rfl, rfl, rfl, rfl⟩, fun _ member => member⟩
  refine ⟨⟨fun id inflow found ngn matched => ?_, fun asked => ⟨fun r member => ?_,
    fun inflow member ngn none => ?_⟩, fun asked orderNo member => ?_⟩, kept, fun _ => .of_eq rfl⟩
  · rcases row_of_concat found with old | ⟨_, rfl⟩
    · exact used id inflow old ngn matched
    · rw [unmatched] at matched
      cases matched
  · exact ((onConfirmed asked).credits r member).mono kept
  · rcases List.mem_append.mp member with old | new
    · exact ((onConfirmed asked).rows inflow old ngn none).mono kept
    · obtain rfl := List.mem_singleton.mp new
      exact (confirmed asked none).mono kept
  · obtain ⟨stored, rows⟩ := closed asked orderNo member
    refine ⟨by simp [isStored_iff] at stored ⊢; exact .inl stored, fun inflow inside same => ?_⟩
    rcases List.mem_append.mp inside with old | new
    · exact rows inflow old same
    · obtain rfl := List.mem_singleton.mp new
      rw [same, stored] at free
      cases free

theorem closedRows_iff {orderNo : String} {w : World} :
    closedRows orderNo w = true ↔
      ∀ inflow ∈ w.inflows, inflow.providerReference = orderNo → Closed inflow := by
  simp only [closedRows, Closed, List.all_eq_true, Bool.or_eq_true, decide_eq_true_eq]
  refine forall₂_congr fun inflow _ => ?_
  rw [or_assoc, imp_iff_not_or]

/-- An order is set aside when its rows are closed. -/
theorem noteUntrusted_trust {r s : World} {label : Access} {i : Answer} (orderNo : String)
    (reason : UnmatchedReason)
    (rows : aside → reason ∈ untrustedReasons → closedRows orderNo s = true)
    (held : (contract confirming aside tid).inv s ∧ (contract confirming aside tid).guar label i r s) :
    (contract confirming aside tid).inv (noteUntrusted orderNo reason s) ∧
      (contract confirming aside tid).guar label i r (noteUntrusted orderNo reason s) := by
  obtain ⟨⟨used, onConfirmed, closed⟩, kept, notAside⟩ := held
  unfold noteUntrusted
  split
  · rename_i noted
    refine ⟨⟨used, fun asked => ⟨(onConfirmed asked).credits, (onConfirmed asked).rows⟩,
      fun asked other member => ?_⟩, ⟨kept.inflow, kept.confirmed⟩, notAside⟩
    rcases List.mem_cons.mp member with rfl | old
    · exact ⟨noted.2, closedRows_iff.mp (rows asked noted.1)⟩
    · exact closed asked other old
  · exact ⟨⟨used, onConfirmed, closed⟩, kept, notAside⟩

/-- What a credit rests on: a confirmed order, and for a customer's a row that is trusted. -/
structure Basis (confirming aside : Prop) (params : CreditParams) (w : World) : Prop where
  confirmed : confirming → ConfirmedCredit params.inflowId params.amountNgn w
  trusted : aside → params.matchMethod = .customerClaim → ∃ inflow,
    w.inflows[params.inflowId]? = some inflow ∧ inflow.currency = .ngn ∧ untrusted inflow = false

theorem Basis.mono {params : CreditParams} {s t : World} (kept : Kept s t)
    (basis : Basis confirming aside params s) : Basis confirming aside params t := by
  refine ⟨fun asked => (basis.confirmed asked).mono kept, fun asked claim => ?_⟩
  obtain ⟨inflow, found, ngn, trusted⟩ := basis.trusted asked claim
  obtain ⟨inflow', found', _, _, currency, reason⟩ := kept.inflow params.inflowId inflow found
  refine ⟨inflow', found', currency.trans ngn, ?_⟩
  rw [untrusted, reason]
  exact trusted

theorem written_kept {params : CreditParams} {loan : Loan} {credit : Credit} {createdAt : Time}
    {s t : World} (wrote : Written params loan credit createdAt s t) : Kept s t := by
  obtain ⟨inflow, _, stored, _, rfl⟩ := wrote.eq
  refine ⟨fun id before found => ?_, fun _ member => member⟩
  by_cases same : params.inflowId = id
  · subst same
    obtain rfl := Option.some.inj (stored.symm.trans found)
    exact ⟨_, getElem?_set_of_eq stored, rfl, rfl, rfl, rfl⟩
  · exact ⟨before, (List.getElem?_set_ne same).trans found, rfl, rfl, rfl, rfl⟩

/-- A row after a credit is one from before it, or the one that was matched. -/
theorem written_row {params : CreditParams} {loan : Loan} {credit : Credit} {createdAt : Time}
    {s t : World} (wrote : Written params loan credit createdAt s t) {id : Nat} {inflow : Inflow}
    (found : t.inflows[id]? = some inflow) : ∃ before, s.inflows[id]? = some before ∧
      (inflow = before ∨ id = params.inflowId ∧ inflow = matchedInflow params credit before) := by
  obtain ⟨row, _, stored, _, rfl⟩ := wrote.eq
  by_cases same : params.inflowId = id
  · subst same
    obtain rfl := Option.some.inj ((getElem?_set_of_eq stored).symm.trans found)
    exact ⟨row, stored, .inr ⟨rfl, rfl⟩⟩
  · exact ⟨inflow, (List.getElem?_set_ne same).symm.trans found, .inl rfl⟩

/-- The step: a credit keeps both ledgers when it rests on its basis. A customer's credit of
an order that is set aside would need a row that is matched, and its repayment is there. -/
theorem credit_trust {params : CreditParams} {loan : Loan} {credit : Credit} {createdAt : Time}
    {s t : World} (wrote : Written params loan credit createdAt s t)
    (basis : Basis confirming aside params s) (label : Access) (i : Answer)
    (inv : (contract confirming aside tid).inv s) :
    (contract confirming aside tid).inv t ∧ (contract confirming aside tid).guar label i s t := by
  obtain ⟨used, onConfirmed, closed⟩ := inv
  have kept := written_kept wrote
  have repayments : t.repayments = s.repayments ++ [repaymentRow params credit createdAt] := by
    obtain ⟨_, _, _, _, rfl⟩ := wrote.eq
    rfl
  have same : t.setAside = s.setAside := by
    obtain ⟨_, _, _, _, rfl⟩ := wrote.eq
    rfl
  refine ⟨⟨fun id inflow found ngn matched => ?_, fun asked => ⟨fun r member => ?_,
    fun inflow member ngn none => ?_⟩, fun asked orderNo member => ?_⟩, kept,
    fun asked r member fresh claim inflow found order => ?_⟩
  · obtain ⟨before, had, rfl | ⟨rfl, rfl⟩⟩ := written_row wrote found
    · obtain ⟨r, member, of⟩ := used id inflow had ngn matched
      exact ⟨r, by rw [repayments]; simp [member], of⟩
    · exact ⟨repaymentRow params credit createdAt, by simp [repayments], rfl⟩
  · rw [repayments] at member
    rcases List.mem_append.mp member with old | new
    · exact ((onConfirmed asked).credits r old).mono kept
    · obtain rfl := List.mem_singleton.mp new
      exact (basis.confirmed asked).mono kept
  · obtain ⟨id, found⟩ := List.mem_iff_getElem?.mp member
    obtain ⟨before, had, rfl | ⟨_, rfl⟩⟩ := written_row wrote found
    · exact ((onConfirmed asked).rows inflow (List.mem_of_getElem? had) ngn none).mono kept
    · exact ((onConfirmed asked).rows before (List.mem_of_getElem? had) ngn none).mono kept
  · rw [same] at member
    obtain ⟨stored, rows⟩ := closed asked orderNo member
    refine ⟨?_, fun inflow inside of => ?_⟩
    · obtain ⟨row, inside, of⟩ := isStored_iff.mp stored
      obtain ⟨id, found⟩ := List.mem_iff_getElem?.mp inside
      obtain ⟨row', found', reference, _⟩ := kept.inflow id row found
      exact isStored_iff.mpr ⟨row', List.mem_of_getElem? found', reference.trans of⟩
    · obtain ⟨id, found⟩ := List.mem_iff_getElem?.mp inside
      obtain ⟨before, had, rfl | ⟨_, rfl⟩⟩ := written_row wrote found
      · exact rows inflow (List.mem_of_getElem? had) of
      · exact .inl rfl
  · rw [repayments] at member
    rcases List.mem_append.mp member with old | new
    · exact fresh old
    · obtain rfl := List.mem_singleton.mp new
      obtain ⟨row, present, ngn, trusted⟩ := basis.trusted asked claim
      obtain rfl := Option.some.inj (present.symm.trans found)
      rcases (closed asked _ order).2 row (List.mem_of_getElem? present) rfl with matched | marked
      · obtain ⟨r, member, of⟩ := used params.inflowId row present ngn matched
        exact wrote.unused r member of
      · rw [trusted] at marked
        cases marked

theorem creditBody_trust {params : CreditParams} {w : World}
    (basis : Basis confirming aside params w) :
    Keeps confirming aside tid (creditBody tid params) w := by
  rw [Keeps, creditBody, Proc.meets_bind]
  apply query_trust
  intro t i read kept _
  rw [Proc.meets_bind]
  cases planned : planCredit params.amountNgn read.2 read.1.1 read.1.2 with
  | error e => trivial
  | ok plan =>
    cases plan with
    | none => trivial
    | some credit =>
      simp only [Proc.ofExcept, Proc.meets_pure, Proc.meets_bind]
      apply commit_meets
      intro u moved inv _ j _
      refine ⟨still _ j u, fun _ => trivial, fun _ _ => trivial, fun _ u' _ done => ?_⟩
      obtain ⟨v, wrote, -, rfl⟩ := map_pair_ok.mp done
      have held := @credit_trust confirming aside tid params _ _ _ _ _
        (writeCredit_ok (planCredit_ok planned).1 wrote) ((basis.mono kept).mono moved)
        (.credit params.loanId params.inflowId) j inv
      exact and_assoc.mp ⟨trust_congr held rfl rfl rfl rfl, fun _ => trivial, fun _ => trivial⟩

theorem creditInflow_trust {params : CreditParams} {w : World}
    (basis : Basis confirming aside params w) :
    Keeps confirming aside tid (creditInflow tid params) w := by
  rw [Keeps, creditInflow, Proc.meets_bind]
  cases floorCheck params with
  | error e => trivial
  | ok =>
    simp only [Proc.ofExcept, Proc.meets_pure, Proc.meets_bind]
    apply @lockingLoan_meets _ _ _ _ _ _ _ _ (fun _ _ => True) (fun _ _ => True)
    · intro t moved inv _ i _
      obtain ⟨inv', guar⟩ := same_trust (t := { t with
        rowLock := Function.update t.rowLock params.loanId (some tid) })
        (.lockLoan params.loanId) i inv rfl rfl rfl rfl
      exact ⟨still _ i t, trivial, trivial, fun _ _ =>
        ⟨inv', guar, creditBody_trust ((basis.mono moved).mono guar.1)⟩⟩
    · intro u t moved inv i _
      obtain ⟨inv', guar⟩ := same_trust (t := { t with
        rowLock := Function.update t.rowLock params.loanId none })
        (.unlockLoan params.loanId) i inv rfl rfl rfl rfl
      refine ⟨fun done _ => ⟨inv', guar, ?_⟩, fun e _ => ⟨inv', guar, trivial⟩⟩
      cases done.2 with
      | none => trivial
      | some receipt =>
        rw [Proc.meets_bind]
        exact query_trust fun _ _ _ _ _ => trivial

/-- A customer who passes the checks credits a row stored without a reason. -/
theorem applyInflowToLoan_trust {userId inflowId loanId : Nat} {w : World} :
    Keeps confirming aside tid (applyInflowToLoan tid userId inflowId loanId) w := by
  rw [Keeps, applyInflowToLoan, Proc.meets_bind]
  apply query_trust
  intro t _ _ _ _
  rw [Proc.meets_bind]
  apply queryAs_trust
  intro u i inflow _ inv allowed succeeds found
  rw [Proc.meets_bind]
  cases checked : claimable inflow with
  | error e => trivial
  | ok =>
    obtain ⟨unmatched, trusted⟩ := claimable_ok checked
    obtain ⟨present, -, ngn⟩ := findInflow_ok found
    refine creditInflow_trust ⟨fun asked => ⟨inflow, present, ?_⟩, fun _ _ =>
      ⟨inflow, present, ngn, trusted⟩⟩
    have verified : claimsVerified (.findInflow userId inflowId) i u = true := (allowed.1 asked).1
    simp only [claimsVerified, succeeds, found, unmatched, trusted, Bool.false_or,
      Option.isNone_iff_eq_none] at verified
    exact (inv.2.1 asked).rows inflow (List.mem_of_getElem? present) ngn verified

theorem claimInflow_trust {userId loanId : Nat} {w : World} :
    Keeps confirming aside tid (claimInflow tid userId loanId) w := by
  rw [Keeps, claimInflow, Proc.meets_bind]
  apply query_trust
  intro t _ now _ _
  rw [Proc.meets_bind]
  apply query_trust
  intro u _ candidate _ _
  cases candidate with
  | none => trivial
  | some candidate => exact applyInflowToLoan_trust

theorem page_trust {alert : OpsAlert} {w : World} : Keeps confirming aside tid (page alert) w := by
  rw [Keeps, page, Proc.meets_access]
  intro t _ inv _ i allowed
  have sent : let u := if i.fails then t else { t with opsAlerts := t.opsAlerts ++ [alert] };
      (contract confirming aside tid).inv u ∧
        (contract confirming aside tid).guar (.alertOps alert) i t u ∧ u.inflows = t.inflows := by
    dsimp only
    split
    · exact ⟨inv, still _ i t, rfl⟩
    · exact and_assoc.mp ⟨same_trust (.alertOps alert) i inv rfl rfl rfl rfl, rfl⟩
  obtain ⟨inv', guar, rows⟩ := sent
  refine and_assoc.mp ⟨?_, trivial⟩
  unfold noteAlert
  split
  · rename_i orderNo
    apply noteUntrusted_trust orderNo .creditFailed _ ⟨inv', guar⟩
    intro asked _
    have closed : closedRows orderNo t = true := allowed.2 asked
    rw [closedRows, rows]
    exact closed
  · exact ⟨inv', guar⟩

theorem storeUnmatchedInflow_trust {payload : CollectionNotification} {userId : Option Nat}
    {reason : UnmatchedReason} {w : World} :
    Keeps confirming aside tid (storeUnmatchedInflow payload userId reason) w := by
  have create : Keeps confirming aside tid (createUnmatchedInflow payload userId reason) w := by
    apply createUnmatchedInflow_meets
    intro t _ inv i allowed
    have closed (asked : aside) (untrustworthy : reason ∈ untrustedReasons) :
        closedRows payload.orderNo t = true := by
      have here : marked (.storeUnmatchedInflow payload.orderNo reason) i t = true :=
        allowed.2 asked
      simpa [marked, untrustworthy] using here
    have same := @noteUntrusted_trust confirming aside tid t t
      (.storeUnmatchedInflow payload.orderNo reason) i payload.orderNo reason closed
      ⟨inv, still _ i t⟩
    refine ⟨fun _ => and_assoc.mp ⟨same, trivial⟩, fun _ _ => and_assoc.mp ⟨same, trivial⟩,
      fun _ free => and_assoc.mp ⟨?_, fun _ => trivial, fun _ => trivial⟩⟩
    apply noteUntrusted_trust payload.orderNo reason
    · intro asked untrustworthy
      rw [closedRows_iff]
      intro inflow member of
      rcases List.mem_append.mp member with old | new
      · exact closedRows_iff.mp (closed asked untrustworthy) inflow old of
      · obtain rfl := List.mem_singleton.mp new
        exact .inr (by simpa [unmatchedInflow, untrusted] using untrustworthy)
    · exact append_trust _ _ i rfl free (fun _ none => nomatch none) inv
  rw [Keeps, storeUnmatchedInflow, Proc.meets_bind, Proc.meets_attempt]
  apply create.imp
  · exact fun _ t _ => page_trust
  · intro e t _
    cases e <;> first | trivial | exact page_trust

/-- What a re-query confirms is noted with the payload it confirms. -/
theorem getCollectionOrderStatus_trust {payload : CollectionNotification} {w : World}
    {virtualAccountNo : String} (account : payload.virtualAccountNo = some virtualAccountNo) :
    (getCollectionOrderStatus payload).Meets (contract confirming aside tid)
      (fun order t => confirms payload order = true →
        Confirmed payload.orderNo (amountNgn payload) virtualAccountNo t) (fun _ _ => True) w := by
  rw [getCollectionOrderStatus, Proc.meets_access]
  intro t _ inv _ i _
  split
  · exact ⟨inv, still _ i t, trivial⟩
  · dsimp only
    split
    · obtain ⟨used, onConfirmed, closed⟩ := inv
      have kept : Kept t { t with confirmed :=
          ⟨payload.orderNo, payload.orderAmount, payload.virtualAccountNo⟩ :: t.confirmed } :=
        ⟨(Kept.refl t).inflow, fun _ member => List.mem_cons_of_mem _ member⟩
      refine ⟨⟨used, fun asked => ⟨fun r member => ((onConfirmed asked).credits r member).mono kept,
        fun inflow member ngn none => ((onConfirmed asked).rows inflow member ngn none).mono kept⟩,
        closed⟩, ⟨kept, fun _ => .of_eq rfl⟩, fun _ => ?_⟩
      exact ⟨_, List.mem_cons_self .., rfl, rfl, account⟩
    · rename_i unconfirmed
      exact ⟨inv, still _ i t, fun confirmed => absurd confirmed unconfirmed⟩

theorem isStored_of_findRow {orderNo : String} {w : World}
    (missing : findRow w.inflows (fun inflow => inflow.providerReference = orderNo) = none) :
    isStored orderNo w = false := by
  have none := findRow_none.mp missing
  simpa [isStored] using none

/-- An unmatched row that the upsert returns is of a confirmed order. -/
theorem upsert_trust {payload : CollectionNotification} {userId : Nat} {signatureOnly : Bool}
    {w : World} {virtualAccountNo : String}
    (account : payload.virtualAccountNo = some virtualAccountNo)
    (confirmed : confirming →
      Confirmed payload.orderNo (amountNgn payload) virtualAccountNo w) :
    (commit (upsertAccess payload userId) (fun _ => true) fun i w =>
      .ok (upsertInflow (verifiedInflow payload userId signatureOnly i.now) w)).Meets
      (contract confirming aside tid) (fun inflow t => confirming → inflow.2.isMatched = false →
        ConfirmedCredit inflow.1 (amountNgn payload) t) (fun _ _ => True) w := by
  apply commit_meets
  intro t kept inv _ i allowed
  refine ⟨still _ i t, fun _ => trivial, fun _ _ => trivial, fun inflow t' succeeds done => ?_⟩
  have upserted := Except.ok.inj done
  unfold upsertInflow at upserted
  split at upserted
  · rename_i stored first
    obtain ⟨rfl, rfl⟩ := Prod.mk.inj upserted
    obtain ⟨present, reference⟩ := findRow_some first
    refine ⟨inv, still _ i t, fun _ asked unmatched => ⟨stored.2, present, ?_⟩, fun _ => trivial⟩
    have same : sameAccount (upsertAccess payload userId) i t = true := (allowed.1 asked).2
    change findRow t.inflows (fun inflow => inflow.providerReference = payload.orderNo) =
      some stored at first
    simp only [upsertAccess, sameAccount, succeeds, unmatched, first, Option.all_some,
      Bool.false_or, decide_eq_true_eq, account, Option.getD_some] at same
    have order : stored.2.providerReference = payload.orderNo := of_decide_eq_true reference
    rw [same, order]
    exact (confirmed asked).mono kept
  · rename_i missing
    obtain ⟨rfl, rfl⟩ := Prod.mk.inj upserted
    have here (asked : confirming) :
        Confirmed payload.orderNo (amountNgn payload) (payload.virtualAccountNo.getD "") t := by
      rw [account]
      exact (confirmed asked).mono kept
    have appended := append_trust (verifiedInflow payload userId signatureOnly i.now)
      (upsertAccess payload userId) i rfl (isStored_of_findRow missing) (fun asked _ => here asked) inv
    refine and_assoc.mp ⟨appended, fun _ asked _ => ?_, fun _ => trivial⟩
    exact ⟨verifiedInflow payload userId signatureOnly i.now, by simp,
      (here asked).mono appended.2.1⟩

theorem settle_trust {payload : CollectionNotification} {userId loanId : Nat}
    {signatureOnly : Bool} {w : World} {virtualAccountNo : String}
    (account : payload.virtualAccountNo = some virtualAccountNo)
    (confirmed : Confirmed payload.orderNo (amountNgn payload) virtualAccountNo w) :
    Keeps confirming aside tid (settle tid payload userId loanId signatureOnly) w := by
  simp only [Keeps, settle, Proc.meets_bind, Proc.meets_attempt]
  apply (upsert_trust account fun _ => confirmed).imp _ fun _ _ _ => trivial
  intro inflow t credited
  cases matched : inflow.2.isMatched with
  | true => trivial
  | false =>
    simp only [Bool.false_eq_true, if_false, Proc.meets_bind, Proc.meets_attempt]
    have basis : Basis confirming aside
        ⟨inflow.1, loanId, amountNgn payload, .autoAmount, false⟩ t :=
      ⟨fun asked => credited asked matched, fun _ claim => by cases claim⟩
    apply (creditInflow_trust basis).imp
    · intro result u _
      split
      · exact page_trust
      · trivial
    · intro e u _
      have read {f : Answer → World → Except AppError Bool} {v : World} :
          Keeps confirming aside tid ((query f).catching fun _ => .pure false) v := by
        rw [Keeps, Proc.meets_catching]
        exact query_trust fun _ _ _ _ _ => trivial
      rw [inflowIsMatched]
      apply read.imp _ fun _ _ _ => trivial
      intro isMatched v _
      cases isMatched with
      | true => trivial
      | false =>
        simp only [Bool.false_eq_true, if_false, Proc.meets_bind, creditFailedBefore]
        apply read.imp _ fun _ _ _ => trivial
        intro pagedBefore x _
        cases pagedBefore with
        | true => trivial
        | false => exact page_trust

theorem handle_trust {parsed : Option CollectionNotification} {w : World} :
    Keeps confirming aside tid (handle tid parsed) w := by
  unfold Keeps handle
  split
  · trivial
  rename_i payload
  split
  · trivial
  split
  · trivial
  rename_i named
  obtain ⟨virtualAccountNo, account⟩ : ∃ va, payload.virtualAccountNo = some va := by
    cases account : payload.virtualAccountNo with
    | none => simp [blank, account] at named
    | some va => exact ⟨va, rfl⟩
  rw [Proc.meets_bind]
  apply query_trust
  intro t _ repaymentAccount _ _
  split
  · trivial
  rename_i owner _
  rw [Proc.meets_bind]
  have reads : Keeps confirming aside tid (matchLoan payload owner.2.userId) t :=
    Proc.Looks.meets (matchLoan_looks (rfl : Access.read = .read)) (fun _ _ _ h => h)
      (fun label i t _ => still label i t) trivial
  apply reads.imp _ fun _ _ _ => trivial
  intro matched u _
  cases matched with
  | error reason =>
    simp only [Proc.meets_bind]
    exact storeUnmatchedInflow_trust
  | ok loanId =>
    simp only [Proc.meets_bind, Proc.meets_attempt]
    apply (getCollectionOrderStatus_trust account).imp _ fun _ _ _ => trivial
    intro order v confirmed
    cases checked : crossCheck payload order with
    | ok => exact settle_trust account (confirmed (crossCheck_ok.mp checked))
    | error refusal =>
      simp only [Proc.meets_bind]
      split
      · exact storeUnmatchedInflow_trust
      · trivial

theorem log_trust {f : Answer → World → Except AppError (α × World)} {handler : Action α} {w : World}
    (logs : ∀ i s a t, f i s = .ok (a, t) → ∃ rows, t = { s with webhookLogs := rows })
    (caught : ∀ t, Keeps confirming aside tid handler t) :
    Keeps confirming aside tid
      ((commit .webhookLog (fun _ => true) f).catching fun _ => handler) w := by
  rw [Keeps, Proc.meets_catching]
  apply commit_meets
  intro t _ inv _ i _
  refine ⟨still _ i t, fun _ => caught t, fun _ _ => caught t, fun a t' _ done => ?_⟩
  obtain ⟨rows, rfl⟩ := logs i t a t' done
  exact and_assoc.mp ⟨same_trust .webhookLog i inv rfl rfl rfl rfl, fun _ => trivial,
    fun _ => caught _⟩

theorem updateOutcome_trust {logId : Option Nat} {data : WebhookLog → WebhookLog} {w : World} :
    Keeps confirming aside tid (updateOutcome logId data) w := by
  unfold updateOutcome
  split
  · trivial
  · refine log_trust (fun i s a t done => ?_) fun _ => trivial
    obtain ⟨rows, -, -, rfl⟩ := map_pair_ok.mp done
    exact ⟨rows, rfl⟩

theorem handleWebhook_trust {signatureValid : Bool} {parsed : Option CollectionNotification}
    {w : World} : Keeps confirming aside tid (handleWebhook tid signatureValid parsed) w := by
  have recorded : Keeps confirming aside tid (record "palmpay") w :=
    log_trust (fun _ _ _ _ done => ⟨_, (Prod.mk.inj (Except.ok.inj done)).2.symm⟩)
      fun _ => trivial
  rw [Keeps, handleWebhook, Proc.meets_bind]
  apply recorded.imp _ fun _ _ _ => trivial
  intro logId t _
  split
  · rw [Proc.meets_bind, Proc.meets_attempt]
    apply handle_trust.imp
    · intro delivery u _
      simp only [Proc.meets_bind]
      exact updateOutcome_trust
    · intro e u _
      simp only [Proc.meets_bind]
      exact updateOutcome_trust
  · rw [Proc.meets_bind]
    exact updateOutcome_trust

theorem procedure_trust (op : Operation) (w : World) :
    Keeps confirming aside tid (procedure tid op) w := by
  cases op with
  | handleWebhook signatureValid parsed =>
    rw [procedure, Keeps, Proc.meets_bind]
    exact handleWebhook_trust
  | claimInflow userId loanId =>
    rw [procedure, Keeps, Proc.meets_bind, Proc.meets_attempt]
    exact claimInflow_trust
  | applyInflowToLoan userId inflowId loanId =>
    rw [procedure, Keeps, Proc.meets_bind, Proc.meets_attempt]
    exact applyInflowToLoan_trust

end Contract

theorem trust_holds {confirming aside : Prop} {w₀ : World} {trace : Trace} {c : Reached}
    (used : Used w₀) (onConfirmed : confirming → OnConfirmed w₀) (closed : aside → AsideClosed w₀)
    (run : Runs procedure w₀ trace c)
    (verified : confirming → ∀ e ∈ trace, claimsVerified e.2.label e.2.answer e.2.before = true ∧
      sameAccount e.2.label e.2.answer e.2.before = true)
    (found : aside → ∀ e ∈ trace, marked e.2.label e.2.answer e.2.before = true) :
    (trust confirming aside).Holds (fun _ _ _ => True) (fun _ _ _ => True) trace c :=
  run.holds trust_sound (fun _ _ _ _ _ h => h) (fun _ _ _ _ _ h => h)
    ⟨used, onConfirmed, closed⟩ (fun _ => trivial) (fun _ op w _ _ => procedure_trust op w)
    fun e member => ⟨fun asked => verified asked e member, fun asked => found asked e member⟩

/-- Before any naira came in and before any re-query. -/
structure Unopened (w : World) : Prop where
  repayments : w.repayments = []
  inflows : ∀ inflow ∈ w.inflows, inflow.currency ≠ .ngn
  confirmed : w.confirmed = []

/-- In a run whose customers credit rows that were stored without a reason, and whose
deliveries name the account that is stored, every repayment rests on a confirmed order. -/
theorem credits_confirmed {w₀ : World} {trace : Trace} {c : Reached} (unopened : Unopened w₀)
    (run : Runs procedure w₀ trace c)
    (verified : ∀ e ∈ trace, claimsVerified e.2.label e.2.answer e.2.before = true ∧
      sameAccount e.2.label e.2.answer e.2.before = true) :
    ∀ r ∈ c.shared.repayments, ConfirmedCredit r.inflowId r.amountNgn c.shared := by
  have used : Used w₀ := fun id inflow found ngn _ =>
    absurd ngn (unopened.inflows inflow (List.mem_of_getElem? found))
  have onConfirmed : OnConfirmed w₀ := by
    refine ⟨by simp [unopened.repayments], fun inflow member ngn _ => ?_⟩
    exact absurd ngn (unopened.inflows inflow member)
  have held := @trust_holds True False w₀ trace c used (fun _ => onConfirmed)
    (fun impossible => impossible.elim) run (fun _ => verified) fun impossible => impossible.elim
  exact (held.inv.2.1 trivial).credits

theorem oneActiveLoan_unopened : Unopened oneActiveLoan :=
  ⟨rfl, fun _ member => absurd member List.not_mem_nil, rfl⟩

theorem credits_confirmed_contradicted : ∃ trace c, Runs procedure oneActiveLoan trace c ∧
    c.shared.repayments.length = 1 ∧ c.shared.inflows.length = 2 ∧
    ∀ r ∈ c.shared.repayments, ConfirmedCredit r.inflowId r.amountNgn c.shared := by
  have played := exists_run procedure oneActiveLoan contradictedThenCredited
    (fun trace c => decide (c.shared.repayments.length = 1 ∧ c.shared.inflows.length = 2 ∧
      ∀ e ∈ trace, claimsVerified e.2.label e.2.answer e.2.before = true ∧
        sameAccount e.2.label e.2.answer e.2.before = true)) (by decide +kernel)
  obtain ⟨trace, c, run, checked⟩ := played
  obtain ⟨single, both, verified⟩ := of_decide_eq_true checked
  exact ⟨trace, c, run, single, both, credits_confirmed oneActiveLoan_unopened run verified⟩

/-- A small collection is parked before any re-query, and the customer applies it. -/
def parkedThenApplied : List (Choice Operation Answer) :=
  [.start (notification 500000), .run 0 {}, .run 0 {}, .run 0 {}, .run 0 {}, .run 0 {}, .run 0 {},
    .start (.applyInflowToLoan 0 0 0), .run 1 {}, .run 1 {}, .run 1 {}, .run 1 {}, .run 1 {},
    .run 1 {}, .run 1 {}]

theorem credits_unconfirmed : ∃ trace c, Unopened oneActiveLoan ∧
    Runs procedure oneActiveLoan trace c ∧
    ¬ ∀ r ∈ c.shared.repayments, ConfirmedCredit r.inflowId r.amountNgn c.shared := by
  have played := exists_run procedure oneActiveLoan parkedThenApplied
    (fun _ c => decide (c.shared.repayments.length = 1 ∧ c.shared.confirmed = []))
    (by decide +kernel)
  obtain ⟨trace, c, run, checked⟩ := played
  obtain ⟨single, none⟩ := of_decide_eq_true checked
  refine ⟨trace, c, oneActiveLoan_unopened, run, fun all => ?_⟩
  obtain ⟨r, list⟩ := List.length_eq_one_iff.mp single
  obtain ⟨_, _, order, member, _⟩ := all r (by simp [list])
  rw [none] at member
  exact absurd member List.not_mem_nil

/-- No customer credits an inflow whose order is set aside, and no customer is shown one. -/
structure LeftToOps (trace : Trace) (c : Reached) : Prop where
  uncredited : ∀ e ∈ trace, NotAside e.2.before e.2.after
  unlisted : ∀ userId, ∀ row ∈ unmatchedInflowsOf userId c.shared,
    row.2.providerReference ∉ c.shared.setAside

/-- What is listed is stored, unmatched and trusted. -/
theorem unmatchedInflowsOf_open {userId : Nat} {w : World} {row : Nat × Inflow}
    (member : row ∈ unmatchedInflowsOf userId w) : row.2 ∈ w.inflows ∧ ¬ Closed row.2 := by
  obtain ⟨listed, trusted⟩ := List.mem_filter.mp member
  rw [List.mem_insertionSort] at listed
  obtain ⟨found, chosen⟩ := mem_findRows.mp listed
  refine ⟨List.mem_of_getElem? found, ?_⟩
  rintro (matched | marked)
  · rw [(of_decide_eq_true chosen).2.2.1] at matched
    cases matched
  · simp [marked] at trusted

/-- In a run whose deliveries end untrusted only where the order is not stored, matched or
marked, what is set aside stays with ops. -/
theorem untrusted_left_to_ops {w₀ : World} {trace : Trace} {c : Reached} (opened : Opened w₀)
    (nothing : w₀.setAside = []) (run : Runs procedure w₀ trace c)
    (found : ∀ e ∈ trace, marked e.2.label e.2.answer e.2.before = true) : LeftToOps trace c := by
  have used : Used w₀ := fun id inflow found ngn matched => by
    rw [opened.unmatched inflow (List.mem_of_getElem? found) ngn] at matched
    cases matched
  have closed : AsideClosed w₀ := by simp [AsideClosed, nothing]
  have held := @trust_holds False True w₀ trace c used (fun impossible => impossible.elim)
    (fun _ => closed) run (fun impossible => impossible.elim) fun _ => found
  refine ⟨fun e member => (held.events e member).2.2.2 trivial, fun userId row member aside => ?_⟩
  obtain ⟨stored, notClosed⟩ := unmatchedInflowsOf_open member
  exact notClosed ((held.inv.2.2 trivial _ aside).2 row.2 stored rfl)

theorem untrusted_left_to_ops_contradicted : ∃ trace c, Runs procedure oneActiveLoan trace c ∧
    c.shared.setAside = ["order-1"] ∧ LeftToOps trace c := by
  have played := exists_run procedure oneActiveLoan contradictedThenCredited
    (fun trace c => decide (c.shared.setAside = ["order-1"] ∧
      ∀ e ∈ trace, marked e.2.label e.2.answer e.2.before = true)) (by decide +kernel)
  obtain ⟨trace, c, run, checked⟩ := played
  obtain ⟨aside, found⟩ := of_decide_eq_true checked
  exact ⟨trace, c, run, aside, untrusted_left_to_ops oneActiveLoan_opened rfl run found⟩

/-- The credit of a delivery fails at its lock and pages ops; the customer applies the row. -/
def failedThenApplied : List (Choice Operation Answer) :=
  [.start (notification 4000000), .run 0 {}, .run 0 {}, .run 0 {}, .run 0 (settledWith 4000000),
    .run 0 {}, .run 0 { fails := true }, .run 0 {}, .run 0 {}, .run 0 {}, .run 0 {},
    .start (.applyInflowToLoan 0 0 0), .run 1 {}, .run 1 {}, .run 1 {}, .run 1 {}, .run 1 {},
    .run 1 {}, .run 1 {}]

/-- A customer's repayment of an inflow that is set aside, made in one access. -/
def claimsAside (s t : World) : Bool :=
  t.repayments.any fun r => r ∉ s.repayments ∧ r.matchMethod = .customerClaim ∧
    (s.inflows[r.inflowId]?).any fun inflow => inflow.providerReference ∈ s.setAside

theorem untrusted_not_left_to_ops : ∃ trace c, Opened oneActiveLoan ∧ oneActiveLoan.setAside = [] ∧
    Runs procedure oneActiveLoan trace c ∧ ¬ LeftToOps trace c := by
  have played := exists_run procedure oneActiveLoan failedThenApplied
    (fun trace _ => trace.any fun e => claimsAside e.2.before e.2.after) (by decide +kernel)
  obtain ⟨trace, c, run, checked⟩ := played
  refine ⟨trace, c, oneActiveLoan_opened, rfl, run, fun left => ?_⟩
  obtain ⟨e, member, claims⟩ := List.any_eq_true.mp checked
  obtain ⟨r, made, here⟩ := List.any_eq_true.mp claims
  obtain ⟨fresh, claim, aside⟩ := of_decide_eq_true here
  obtain ⟨inflow, found, listed⟩ := (Option.any_eq_true _ _).mp aside
  exact left.uncredited e member r made fresh claim inflow found (of_decide_eq_true listed)

end Bitmonie.CollectionTrust
