import Bitmonie.Collection

/-! A collection below the floor that the webhook lets through because it closes the
customer's one ACTIVE loan. The floor of `creditInflow` knows nothing of that, so such a
collection is refused there: only an order that was credited before is on the loan. -/
namespace Bitmonie.SmallPayoff
open LoansService PalmpayProvider OpsAlertsService WebhooksLogService PalmpayCollectionVaWebhook

/-- Nothing fails, and PalmPay confirms the order. -/
structure Confirming (payload : CollectionNotification) (i : Answer) : Prop where
  succeeds : i.fails = false
  answered : i.lost = false
  confirmed : confirms payload (collectionOrder i.order) = true

/-- A collection into the account of a user with one ACTIVE loan, below the floor, that the
webhook lets through. -/
structure LetThrough (payload : CollectionNotification) (loanId : Nat) (i : Answer) (w : World) :
    Prop where
  successful : payload.orderStatus = collectionStatusSuccess
  addressed : blank payload.virtualAccountNo = false
  positive : 0 < amountNgn payload
  small : amountNgn payload < minPartialRepaymentNgn
  account : ∃ id account, (findRow w.repaymentAccounts fun account =>
      some account.virtualAccountNo = payload.virtualAccountNo) = some (id, account) ∧
    (activeLoansOf account.userId w).map Prod.fst = [loanId] ∧
    (amountClosesAnyActiveLoan account.userId (amountNgn payload)).atOnce i w = some (.ok true, w)

def inflowOf (orderNo : String) (w : World) : Option (Nat × Inflow) :=
  findRow w.inflows fun inflow => inflow.providerReference = orderNo

def PaidOn (orderNo : String) (loanId : Nat) (w : World) : Prop :=
  ∃ id inflow, inflowOf orderNo w = some (id, inflow) ∧ inflow.isMatched = true ∧
    ∃ r ∈ w.repayments, r.inflowId = id ∧ r.loanId = loanId

/-- The credit of the delivery was refused for its amount. -/
def refusedAtFloor (delivery : Delivery) : Bool :=
  match delivery.2 with
  | some (.error (.inflowBelowFloor _ _)) => true
  | _ => false

/-- The delivery ended with the collection on the loan, and the floor refused nothing. -/
structure ClosedBy (orderNo : String) (loanId : Nat) (result : Except AppError Delivery)
    (w : World) : Prop where
  paid : PaidOn orderNo loanId w
  accepted : ∀ delivery, result = .ok delivery → refusedAtFloor delivery = false

def SameBooks (w w' : World) : Prop := w'.inflows = w.inflows ∧ w'.repayments = w.repayments

theorem SameBooks.trans {r s t : World} (first : SameBooks r s) (second : SameBooks s t) :
    SameBooks r t := ⟨second.1.trans first.1, second.2.trans first.2⟩

theorem SameBooks.inflowOf {w w' : World} (same : SameBooks w w') (orderNo : String) :
    inflowOf orderNo w' = inflowOf orderNo w := by simp [SmallPayoff.inflowOf, same.1]

theorem SameBooks.paidOn {w w' : World} (same : SameBooks w w') (orderNo : String) (loanId : Nat) :
    PaidOn orderNo loanId w' ↔ PaidOn orderNo loanId w := by
  simp [PaidOn, same.inflowOf, same.2]

def Unpaid (orderNo : String) (w : World) : Prop :=
  ∀ row, inflowOf orderNo w = some row → row.2.isMatched = false

section Steps
variable {tid : Nat} {payload : CollectionNotification} {i : Answer} {w : World}

theorem record_atOnce (provider : String) (succeeds : i.fails = false) (answered : i.lost = false) :
    (record provider).atOnce i w = some (.ok (some w.webhookLogs.length),
      { w with webhookLogs := w.webhookLogs ++ [{ provider := provider }] }) := by
  rw [record, Proc.atOnce_catching, commit_atOnce succeeds answered rfl rfl]
  rfl

/-- Logs do not matter to a collection. -/
theorem LetThrough.logged {loanId : Nat} (through : LetThrough payload loanId i w)
    (succeeds : i.fails = false) (logs : List WebhookLog) :
    LetThrough payload loanId i { w with webhookLogs := logs } := by
  obtain ⟨id, account, found, single, closes⟩ := through.account
  refine ⟨through.successful, through.addressed, through.positive, through.small, id, account, found,
    single, ?_⟩
  rw [amountClosesAnyActiveLoan, query_atOnce succeeds] at closes ⊢
  obtain ⟨closed, _⟩ := Prod.mk.inj (Option.some.inj closes)
  exact congrArg some (Prod.ext closed rfl)

theorem updateOutcome_atOnce (logId : Option Nat) (data : WebhookLog → WebhookLog)
    (succeeds : i.fails = false) (answered : i.lost = false) :
    ∃ t, (updateOutcome logId data).atOnce i w = some (.ok (), t) ∧ SameBooks w t := by
  cases logId with
  | none => exact ⟨w, rfl, rfl, rfl⟩
  | some id =>
    cases updated : updateRow w.webhookLogs id data with
    | error e =>
      refine ⟨w, ?_, rfl, rfl⟩
      simp [updateOutcome, commit, Proc.atOnce_access, committed, succeeds, updated, Except.map]
    | ok logs =>
      refine ⟨{ w with webhookLogs := logs }, ?_, rfl, rfl⟩
      simp [updateOutcome, commit, Proc.atOnce_access, committed, succeeds, answered, updated,
        Except.map]

theorem page_atOnce (alert : OpsAlert) (succeeds : i.fails = false) :
    ∃ t, (page alert).atOnce i w = some (.ok (), t) ∧ SameBooks w t := by
  let paged : World := { w with opsAlerts := w.opsAlerts ++ [alert] }
  obtain ⟨orders, noted⟩ := noteAlert_eq alert paged
  refine ⟨noteAlert alert paged, ?_, ?_⟩
  · simp [page, Proc.atOnce_access, succeeds, paged]
  · rw [noted]
    exact ⟨rfl, rfl⟩

theorem matchLoan_atOnce {userId loanId : Nat} (succeeds : i.fails = false)
    (small : amountNgn payload < minPartialRepaymentNgn)
    (single : (activeLoansOf userId w).map Prod.fst = [loanId])
    (closes : (amountClosesAnyActiveLoan userId (amountNgn payload)).atOnce i w =
      some (.ok true, w)) :
    (matchLoan payload userId).atOnce i w = some (.ok (.ok loanId), w) := by
  rw [matchLoan, if_pos small, Proc.atOnce_bind, closes]
  simp only [Option.bind_some, if_true, selectLoan, Proc.atOnce_bind, query_atOnce succeeds, single,
    Proc.atOnce_pure]

theorem getCollectionOrderStatus_atOnce (confirming : Confirming payload i) :
    ∃ t, (getCollectionOrderStatus payload).atOnce i w = some (.ok (collectionOrder i.order), t) ∧
      SameBooks w t := by
  refine ⟨{ w with confirmed :=
    ⟨payload.orderNo, payload.orderAmount, payload.virtualAccountNo⟩ :: w.confirmed }, ?_, rfl, rfl⟩
  simp [getCollectionOrderStatus, Proc.atOnce_access, confirming.succeeds, confirming.confirmed]

/-- The credit of a delivery does not skip the floor. -/
theorem creditInflow_atOnce {params : CreditParams} (skips : params.skipFloor = false)
    (small : params.amountNgn < minPartialRepaymentNgn) :
    ∃ received floor, (creditInflow tid params).atOnce i w =
      some (.error (.inflowBelowFloor received floor), w) := by
  refine ⟨displayNgn params.amountNgn .ceil, displayNgn minPartialRepaymentNgn .ceil, ?_⟩
  simp [creditInflow, floorCheck, skips, small, Proc.ofExcept]

theorem inflowIsMatched_atOnce {id : Nat} {inflow : Inflow} (succeeds : i.fails = false)
    (found : w.inflows[id]? = some inflow) (unmatched : inflow.isMatched = false) :
    (inflowIsMatched id).atOnce i w = some (.ok false, w) := by
  rw [inflowIsMatched, Proc.atOnce_catching, query_atOnce succeeds, found]
  simp [unmatched]

/-- What follows a refused credit: ops are paged once. -/
theorem failed_atOnce (delivery : Delivery) (succeeds : i.fails = false) :
    ∃ t, ((creditFailedBefore payload.orderNo).bind fun pagedBefore =>
        (if pagedBefore then .pure ()
          else alertUnmatchedInflow payload.orderNo .creditFailed).bind fun _ =>
        .pure delivery).atOnce i w = some (.ok delivery, t) ∧ SameBooks w t := by
  rw [Proc.atOnce_bind, creditFailedBefore, Proc.atOnce_catching, query_atOnce succeeds]
  simp only [Option.bind_some, Proc.atOnce_bind]
  split
  · exact ⟨w, rfl, rfl, rfl⟩
  · obtain ⟨t, paged, same⟩ := @page_atOnce i w (.unmatchedInflow payload.orderNo .creditFailed) succeeds
    refine ⟨t, ?_, same⟩
    rw [alertUnmatchedInflow, paged]
    rfl

/-- The delivery stops at a matched inflow, or its credit is refused and the inflow of the
order is as unmatched as before. -/
def Left (orderNo : String) (delivery : Delivery) (w w' : World) : Prop :=
  (SameBooks w w' ∧ refusedAtFloor delivery = false) ∨
    (Unpaid orderNo w ∧ Unpaid orderNo w' ∧ refusedAtFloor delivery = true)

theorem Left.after {orderNo : String} {delivery : Delivery} {r s t : World}
    (left : Left orderNo delivery s t) (same : SameBooks r s) : Left orderNo delivery r t := by
  rcases left with ⟨kept, accepted⟩ | ⟨before, after, refused⟩
  · exact .inl ⟨same.trans kept, accepted⟩
  · exact .inr ⟨fun row found => before row ((same.inflowOf orderNo).trans found), after, refused⟩

theorem Left.before {orderNo : String} {delivery : Delivery} {r s t : World}
    (left : Left orderNo delivery r s) (same : SameBooks s t) : Left orderNo delivery r t := by
  rcases left with ⟨kept, accepted⟩ | ⟨before, after, refused⟩
  · exact .inl ⟨kept.trans same, accepted⟩
  · exact .inr ⟨before, fun row found => after row ((same.inflowOf orderNo).symm.trans found), refused⟩

theorem Unpaid.not_paidOn {orderNo : String} {w : World} (unpaid : Unpaid orderNo w) (loanId : Nat) :
    ¬ PaidOn orderNo loanId w := by
  rintro ⟨id, inflow, found, isMatched, _⟩
  exact absurd ((unpaid (id, inflow) found).symm.trans isMatched) Bool.false_ne_true

theorem Left.closedBy {orderNo : String} {delivery : Delivery} {w w' : World}
    (left : Left orderNo delivery w w') (loanId : Nat) :
    ClosedBy orderNo loanId (.ok delivery) w' ↔ PaidOn orderNo loanId w := by
  rcases left with ⟨same, accepted⟩ | ⟨before, after, _⟩
  · rw [← same.paidOn orderNo loanId]
    refine ⟨fun closed => closed.paid, fun paid => ⟨paid, fun other ended => ?_⟩⟩
    obtain rfl := Except.ok.inj ended
    exact accepted
  · exact ⟨fun closed => absurd closed.paid (after.not_paidOn loanId),
      fun paid => absurd paid (before.not_paidOn loanId)⟩

/-- The upsert finds the inflow of the order, or stores it unmatched. -/
theorem upsert_atOnce (userId : Nat) (signatureOnly : Bool) (succeeds : i.fails = false)
    (answered : i.lost = false) :
    ∃ row t, (commit (upsertAccess payload userId) (fun _ => true) fun i w =>
        .ok (upsertInflow (verifiedInflow payload userId signatureOnly i.now) w)).atOnce i w =
          some (.ok row, t) ∧
      inflowOf payload.orderNo t = some row ∧
      (t = w ∨ (inflowOf payload.orderNo w = none ∧ row.2.isMatched = false)) := by
  let created := verifiedInflow payload userId signatureOnly i.now
  refine ⟨(upsertInflow created w).1, (upsertInflow created w).2,
    commit_atOnce succeeds answered rfl rfl, ?_⟩
  cases stored : inflowOf payload.orderNo w with
  | some row =>
    have kept : upsertInflow created w = (row, w) := by
      unfold upsertInflow
      rw [show findRow w.inflows (fun inflow => inflow.providerReference = created.providerReference)
        = some row from stored]
    rw [kept]
    exact ⟨stored, .inl rfl⟩
  | none =>
    have new : upsertInflow created w =
        ((w.inflows.length, created), { w with inflows := w.inflows ++ [created] }) := by
      unfold upsertInflow
      rw [show findRow w.inflows (fun inflow => inflow.providerReference = created.providerReference)
        = none from stored]
    rw [new]
    exact ⟨findRow_concat stored (decide_eq_true rfl), .inr ⟨rfl, rfl⟩⟩

theorem settle_atOnce (userId loanId : Nat) (signatureOnly : Bool)
    (succeeds : i.fails = false) (answered : i.lost = false)
    (small : amountNgn payload < minPartialRepaymentNgn) :
    ∃ delivery t, (settle tid payload userId loanId signatureOnly).atOnce i w =
      some (.ok delivery, t) ∧ Left payload.orderNo delivery w t := by
  obtain ⟨row, u, upserted, stored, before⟩ :=
    @upsert_atOnce payload i w userId signatureOnly succeeds answered
  rw [settle, Proc.atOnce_bind, Proc.atOnce_attempt, upserted]
  simp only [Option.map_some, Option.bind_some]
  cases isMatched : row.2.isMatched with
  | true =>
    obtain rfl : u = w := by simpa [isMatched] using before
    exact ⟨_, u, rfl, .inl ⟨⟨rfl, rfl⟩, rfl⟩⟩
  | false =>
    have unpaid : Unpaid payload.orderNo u := by
      rintro other found
      obtain rfl := Option.some.inj (stored.symm.trans found)
      exact isMatched
    have unpaidBefore : Unpaid payload.orderNo w := by
      rcases before with rfl | ⟨new, _⟩
      · exact unpaid
      · simp [Unpaid, new]
    obtain ⟨received, floor, refused⟩ := @creditInflow_atOnce tid i u
      { inflowId := row.1, loanId := loanId, amountNgn := amountNgn payload,
        matchMethod := .autoAmount } rfl small
    let delivery : Delivery := (⟨.error, creditFailedDetail, some payload.orderNo⟩,
      some (.error (.inflowBelowFloor received floor)))
    obtain ⟨t, failed, same⟩ := @failed_atOnce payload i u delivery succeeds
    have found : u.inflows[row.1]? = some row.2 := (findRow_some stored).1
    refine ⟨delivery, t, ?_, .inr ⟨unpaidBefore, fun other found => ?_, rfl⟩⟩
    · rw [if_neg Bool.false_ne_true, Proc.atOnce_bind, Proc.atOnce_attempt, refused]
      simp only [Option.map_some, Option.bind_some]
      rw [Proc.atOnce_bind, inflowIsMatched_atOnce succeeds found isMatched]
      exact failed
    · exact unpaid other (same.inflowOf _ ▸ found)

theorem handle_atOnce {loanId : Nat} (confirming : Confirming payload i)
    (through : LetThrough payload loanId i w) :
    ∃ delivery t, (handle tid (some payload)).atOnce i w = some (.ok delivery, t) ∧
      Left payload.orderNo delivery w t := by
  obtain ⟨id, account, found, single, closes⟩ := through.account
  obtain ⟨u, verified, same⟩ := @getCollectionOrderStatus_atOnce payload i w confirming
  obtain ⟨delivery, t, settled, left⟩ := @settle_atOnce tid payload i u account.userId loanId
    ((collectionOrder i.order).status = .notFound) confirming.succeeds confirming.answered
    through.small
  refine ⟨delivery, t, ?_, left.after same⟩
  simp only [handle]
  rw [if_neg (not_not.mpr through.successful), if_neg (by simp [through.addressed]),
    Proc.atOnce_bind, query_atOnce confirming.succeeds, found]
  simp only [Option.bind_some]
  rw [Proc.atOnce_bind, matchLoan_atOnce confirming.succeeds through.small single closes]
  simp only [Option.bind_some]
  rw [Proc.atOnce_bind, Proc.atOnce_attempt, verified]
  simp only [Option.map_some, Option.bind_some, crossCheck_ok.mpr confirming.confirmed]
  exact settled

/-- The delivery to its end, with the log before and after it. -/
theorem handleWebhook_atOnce {loanId : Nat} (confirming : Confirming payload i)
    (through : LetThrough payload loanId i w) :
    ∃ delivery t, (handleWebhook tid true (some payload)).atOnce i w = some (.ok delivery, t) ∧
      Left payload.orderNo delivery w t := by
  let logged : World := { w with webhookLogs := w.webhookLogs ++ [{ provider := "palmpay" }] }
  obtain ⟨delivery, u, handled, left⟩ := @handle_atOnce tid payload i logged loanId confirming
    (through.logged confirming.succeeds _)
  obtain ⟨t, updated, same⟩ := @updateOutcome_atOnce i u (some w.webhookLogs.length)
    (loggedOutcome true delivery.1.outcome (some delivery.1.outcomeDetail)
      delivery.1.externalReference) confirming.succeeds confirming.answered
  refine ⟨delivery, t, ?_, (left.before same).after ⟨rfl, rfl⟩⟩
  unfold handleWebhook
  rw [Proc.atOnce_bind, record_atOnce _ confirming.succeeds confirming.answered]
  simp only [Option.bind_some, if_true]
  rw [Proc.atOnce_bind, Proc.atOnce_attempt, handled]
  simp only [Option.map_some, Option.bind_some]
  rw [Proc.atOnce_bind, updated]
  rfl

end Steps

theorem handleWebhook_left (tid : Nat) {payload : CollectionNotification} {loanId : Nat} {i : Answer}
    {w : World} (confirming : Confirming payload i) (through : LetThrough payload loanId i w) :
    ∃ n f delivery, (handleWebhook tid true (some payload)).exec (List.replicate n i) w = some f ∧
      f.result = .ok delivery ∧ Left payload.orderNo delivery w f.state := by
  obtain ⟨delivery, t, done, left⟩ := @handleWebhook_atOnce tid payload i w loanId confirming through
  obtain ⟨n, f, ran, same⟩ := Proc.atOnce_exec done
  obtain ⟨result, state⟩ := Prod.mk.inj same
  exact ⟨n, f, delivery, ran, result, state ▸ left⟩

/-- What the webhook's floor lets through is on the loan when its delivery has ended, with no
refusal at the other floor, if and only if an earlier credit put it there. -/
theorem small_payoff_iff (tid : Nat) {payload : CollectionNotification} {loanId : Nat} {i : Answer}
    {w : World} (confirming : Confirming payload i) (through : LetThrough payload loanId i w) :
    ∃ n f, (handleWebhook tid true (some payload)).exec (List.replicate n i) w = some f ∧
      (ClosedBy payload.orderNo loanId f.result f.state ↔ PaidOn payload.orderNo loanId w) := by
  obtain ⟨n, f, delivery, ran, result, left⟩ := handleWebhook_left tid confirming through
  exact ⟨n, f, ran, result ▸ left.closedBy loanId⟩

def smallPayoff : CollectionNotification :=
  ⟨"order-1", collectionStatusSuccess, 900000, some "0100000001", some "signature"⟩

def settledSmall : Answer := { order := { orderStatus := some 1, orderAmount := some 900000 } }

def creditedInflow (orderNo : String) (amount : ℚ) : Inflow where
  userId := some 0
  amount := amount
  currency := .ngn
  receivingAddress := "0100000001"
  providerReference := orderNo
  isMatched := true
  matchedAt := some 0
  sourceType := some .loanRepayment
  sourceId := some 0
  createdAt := 0

def creditOf (amount : ℚ) (row : Nat) (matchMethod : MatchMethod) : LoanRepayment :=
  ⟨0, row, amount, amount, 0, 0, 0, matchMethod, 0⟩

/-- A loan of NGN 100,000 with NGN 8,390 left to pay. -/
def tailLoan : World where
  loans := [{
    userId := 0
    disbursementAccountId := 0
    collateralAmountSat := 250000
    principalNgn := 100000
    satNgnRateAtCreation := 6 / 10
    status := .active
    collateralReceivedAt := some 0 }]
  repayments := [creditOf 91610 0 .autoAmount]
  inflows := [creditedInflow "order-0" 91610]
  repaymentAccounts := [⟨0, "0100000001"⟩]

def appliedTail : World :=
  { tailLoan with
    repayments := [creditOf 82610 0 .autoAmount, creditOf 9000 1 .customerClaim]
    inflows := [creditedInflow "order-0" 82610, creditedInflow "order-1" 9000] }

theorem smallPayoff_confirming : Confirming smallPayoff settledSmall :=
  ⟨rfl, rfl, by decide +kernel⟩

theorem smallPayoff_through {w : World}
    (found : (findRow w.repaymentAccounts fun account =>
      some account.virtualAccountNo = smallPayoff.virtualAccountNo) = some (0, ⟨0, "0100000001"⟩))
    (single : (activeLoansOf 0 w).map Prod.fst = [0])
    (closes : ((activeLoansOf 0 w).any fun loan =>
      totalOutstanding w 0 loan - inflowOutstandingMatchToleranceNgn ≤ amountNgn smallPayoff) = true) :
    LetThrough smallPayoff 0 settledSmall w := by
  refine ⟨rfl, by decide, by decide +kernel, by decide +kernel, 0, _, found, single, ?_⟩
  rw [amountClosesAnyActiveLoan, query_atOnce rfl]
  exact congrArg some (Prod.ext (congrArg Except.ok closes) rfl)

theorem small_payoff_iff_applied : ∃ n f,
    (handleWebhook 0 true (some smallPayoff)).exec (List.replicate n settledSmall) appliedTail =
      some f ∧ ClosedBy "order-1" 0 f.result f.state := by
  have through : LetThrough smallPayoff 0 settledSmall appliedTail :=
    smallPayoff_through (by decide +kernel) (by decide +kernel) (by decide +kernel)
  obtain ⟨n, f, ran, closed⟩ := small_payoff_iff 0 smallPayoff_confirming through
  have paid : PaidOn "order-1" 0 appliedTail :=
    ⟨1, creditedInflow "order-1" 9000, by decide +kernel, rfl, creditOf 9000 1 .customerClaim,
      by simp [appliedTail], rfl, rfl⟩
  exact ⟨n, f, ran, closed.mpr paid⟩

/-- On its first delivery the collection is refused. -/
theorem small_payoff_refused : ∃ n f, Confirming smallPayoff settledSmall ∧
    LetThrough smallPayoff 0 settledSmall tailLoan ∧
    (handleWebhook 0 true (some smallPayoff)).exec (List.replicate n settledSmall) tailLoan =
      some f ∧ ¬ ClosedBy "order-1" 0 f.result f.state := by
  have through : LetThrough smallPayoff 0 settledSmall tailLoan :=
    smallPayoff_through (by decide +kernel) (by decide +kernel) (by decide +kernel)
  obtain ⟨n, f, delivery, ran, result, left⟩ := handleWebhook_left 0 smallPayoff_confirming through
  have new : inflowOf "order-1" tailLoan = none := by decide +kernel
  refine ⟨n, f, smallPayoff_confirming, through, ran, fun closed => ?_⟩
  rw [result] at closed
  obtain ⟨_, _, found, _⟩ := (left.closedBy 0).mp closed
  cases new.symm.trans found

end Bitmonie.SmallPayoff
