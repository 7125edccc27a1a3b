import Bitmonie.CollectionLedger

/-! No verified collection is dropped: the deliveries of one order, one after the other, each
amid credits, liquidations and other changes. What is known of the order survives them. The
exception is a credit that finds its loan REPAID, which returns as if it had been made. -/
namespace Bitmonie.CollectionAccounting
open LoansService PalmpayProvider OpsAlertsService WebhooksLogService PalmpayCollectionVaWebhook
open CollectionLedger (oneActiveLoan settledWith)

def alerts (orderNo : String) : OpsAlert → Bool
  | .unmatchedInflow order _ => order = orderNo
  | .signatureOnlyCredit _ _ => false

section Books
variable (orderNo : String)

def alerted (w : World) : Bool := w.opsAlerts.any (alerts orderNo)

def Stored (id : Nat) (w : World) : Prop :=
  ∃ inflow, w.inflows[id]? = some inflow ∧ inflow.providerReference = orderNo

def Repaid (id : Nat) (w : World) : Prop := ∃ r ∈ w.repayments, r.inflowId = id

def IsMatched (id : Nat) (w : World) : Prop :=
  ∃ inflow, w.inflows[id]? = some inflow ∧ inflow.isMatched = true

/-- The inflow has a repayment, or it is stored as unmatched and ops know of it. -/
def Accounted (w : World) : Prop :=
  ∃ id, Stored orderNo id w ∧ (Repaid id w ∨ (¬ IsMatched id w ∧ alerted orderNo w = true))

/-- A matched inflow of the order has a repayment, and a credit that is logged as failed
was paged. -/
structure Kept (w : World) : Prop where
  repaid : ∀ id, Stored orderNo id w → IsMatched id w → Repaid id w
  paged : (w.webhookLogs.any (creditFailedLog orderNo)) = true → alerted orderNo w = true

def Paged (w : World) : Prop :=
  ∀ id, Stored orderNo id w → IsMatched id w ∨ alerted orderNo w = true

/-- What leaves the order as known as it was. -/
structure Preserves (s t : World) : Prop where
  stored : ∀ id, Stored orderNo id t ↔ Stored orderNo id s
  matched : ∀ id, IsMatched id s → IsMatched id t
  repaid : ∀ id, Repaid id s → Repaid id t
  newly : ∀ id, Stored orderNo id t → IsMatched id t → IsMatched id s ∨ Repaid id t
  pages : alerted orderNo s = true → alerted orderNo t = true
  logs : (t.webhookLogs.any (creditFailedLog orderNo)) = true →
    (s.webhookLogs.any (creditFailedLog orderNo)) = true

end Books

section Preserved
variable {orderNo : String} {r s t : World} {id : Nat}

theorem Preserves.trans (first : Preserves orderNo r s) (second : Preserves orderNo s t) :
    Preserves orderNo r t where
  stored id := (second.stored id).trans (first.stored id)
  matched id here := second.matched id (first.matched id here)
  repaid id here := second.repaid id (first.repaid id here)
  newly id stored here := by
    rcases second.newly id stored here with before | paid
    · exact (first.newly id ((second.stored id).mp stored) before).imp_right (second.repaid id)
    · exact .inr paid
  pages here := second.pages (first.pages here)
  logs here := first.logs (second.logs here)

/-- An access that touches neither the inflows nor the repayments, and only adds pages. -/
theorem Preserves.of_same (inflows : t.inflows = s.inflows) (repayments : t.repayments = s.repayments)
    (pages : alerted orderNo s = true → alerted orderNo t = true)
    (logs : (t.webhookLogs.any (creditFailedLog orderNo)) = true →
      (s.webhookLogs.any (creditFailedLog orderNo)) = true) : Preserves orderNo s t := by
  refine ⟨?_, ?_, ?_, ?_, pages, logs⟩
  · simp [Stored, inflows]
  · simp [IsMatched, inflows]
  · simp [Repaid, repayments]
  · intro id _ matched
    exact .inl (by simpa [IsMatched, inflows] using matched)

theorem Preserves.kept (preserves : Preserves orderNo s t) (kept : Kept orderNo s) :
    Kept orderNo t where
  repaid id stored matched := by
    rcases preserves.newly id stored matched with before | paid
    · exact preserves.repaid id (kept.repaid id ((preserves.stored id).mp stored) before)
    · exact paid
  paged logged := preserves.pages (kept.paged (preserves.logs logged))

theorem Preserves.paged (preserves : Preserves orderNo s t) (paged : Paged orderNo s) :
    Paged orderNo t := fun id stored =>
  (paged id ((preserves.stored id).mp stored)).imp (preserves.matched id) preserves.pages

theorem Preserves.grows (preserves : Preserves orderNo s t) (id : Nat) (stored : Stored orderNo id s) :
    Stored orderNo id t := (preserves.stored id).mpr stored

/-- Kept books with every unmatched inflow paged account for a stored order. -/
theorem Kept.accounted (kept : Kept orderNo s) (paged : Paged orderNo s)
    (stored : Stored orderNo id s) : Accounted orderNo s := by
  refine ⟨id, stored, ?_⟩
  by_cases matched : IsMatched id s
  · exact .inl (kept.repaid id stored matched)
  · exact .inr ⟨matched, (paged id stored).resolve_left matched⟩

end Preserved

section Inflows
variable {orderNo : String} {w : World} {row : Inflow} {id : Nat}

theorem stored_concat (here : Stored orderNo id { w with inflows := w.inflows ++ [row] }) :
    Stored orderNo id w ∨ id = w.inflows.length := by
  obtain ⟨inflow, found, named⟩ := here
  rcases row_of_concat found with old | ⟨last, _⟩
  · exact .inl ⟨inflow, old, named⟩
  · exact .inr last

theorem stored_of_concat (here : Stored orderNo id w) :
    Stored orderNo id { w with inflows := w.inflows ++ [row] } :=
  here.imp fun _ => And.imp_left concat_of_row

theorem stored_last (named : row.providerReference = orderNo) :
    Stored orderNo w.inflows.length { w with inflows := w.inflows ++ [row] } :=
  ⟨row, by simp, named⟩

theorem isMatched_concat (unmatched : row.isMatched = false) :
    IsMatched id { w with inflows := w.inflows ++ [row] } ↔ IsMatched id w := by
  constructor
  · rintro ⟨inflow, found, matched⟩
    rcases row_of_concat found with old | ⟨_, rfl⟩
    · exact ⟨inflow, old, matched⟩
    · rw [unmatched] at matched
      cases matched
  · exact fun ⟨inflow, found, matched⟩ => ⟨inflow, concat_of_row found, matched⟩

theorem Kept.concat (kept : Kept orderNo w) (unmatched : row.isMatched = false) :
    Kept orderNo { w with inflows := w.inflows ++ [row] } where
  repaid id stored matched := by
    obtain ⟨inflow, found, isMatched⟩ := (isMatched_concat unmatched).mp matched
    obtain ⟨same, there, named⟩ := stored
    obtain rfl := Option.some.inj ((concat_of_row found).symm.trans there)
    exact kept.repaid id ⟨inflow, found, named⟩ ⟨inflow, found, isMatched⟩
  paged := kept.paged

end Inflows

section Written
variable {orderNo : String} {params : CreditParams} {loan : Loan} {credit : Credit} {createdAt : Time}
  {w w' : World}

theorem written_isMatched (wrote : Written params loan credit createdAt w w') :
    IsMatched params.inflowId w' := by
  obtain ⟨inflow, _, found, _, rfl⟩ := wrote.eq
  exact ⟨_, getElem?_set_of_eq found, rfl⟩

theorem written_preserves (wrote : Written params loan credit createdAt w w') :
    Preserves orderNo w w' := by
  have matched := written_isMatched wrote
  obtain ⟨inflow, _, found, _, rfl⟩ := wrote.eq
  have other (id : Nat) (different : params.inflowId ≠ id) :
      (w.inflows.set params.inflowId (matchedInflow params credit inflow))[id]? = w.inflows[id]? :=
    List.getElem?_set_ne different
  have own : (w.inflows.set params.inflowId (matchedInflow params credit inflow))[params.inflowId]? =
      some (matchedInflow params credit inflow) := getElem?_set_of_eq found
  refine ⟨fun id => ?_, fun id here => ?_, fun id here => ?_, fun id _ here => ?_, id, id⟩
  · by_cases same : params.inflowId = id
    · subst same
      simp only [Stored, own, found, Option.some.injEq, exists_eq_left']
      rfl
    · simp only [Stored, other id same]
  · by_cases same : params.inflowId = id
    · exact same ▸ matched
    · simpa only [IsMatched, other id same] using here
  · obtain ⟨r, member, of⟩ := here
    exact ⟨r, List.mem_append_left _ member, of⟩
  · by_cases same : params.inflowId = id
    · exact .inr ⟨repaymentRow params credit createdAt, by simp, same⟩
    · exact .inl (by simpa only [IsMatched, other id same] using here)

end Written

/-- What other procedures do meanwhile: any change of loans whose rows are not held, credits
of any inflow (also of this order, by its customer), pages, and inflows of other orders. -/
structure Others (orderNo : String) (tid : Nat) (s t : World) : Prop where
  preserves : Preserves orderNo s t
  accounts : ∀ account ∈ s.repaymentAccounts, account ∈ t.repaymentAccounts
  rows : RowsHeld tid s t

theorem Others.refl (orderNo : String) (tid : Nat) (s : World) : Others orderNo tid s s :=
  ⟨.of_same rfl rfl (fun h => h) fun h => h, fun _ h => h, .refl tid s⟩

/-- A credit with nothing in between, of a loan that nobody holds. -/
theorem creditOnce_others {orderNo : String} {tid : Nat} {params : CreditParams} {now : Time}
    {w : World} (free : w.rowLock params.loanId = none) :
    Others orderNo tid w (creditOnce params now w).2 := by
  unfold creditOnce
  cases floorCheck params with
  | error e => exact .refl orderNo tid w
  | ok =>
    cases w.loans[params.loanId]? with
    | none => exact .refl orderNo tid w
    | some loan =>
      dsimp only
      rcases planned : planCredit params.amountNgn now loan (repaymentsOf w params.loanId) with
        e | _ | credit
      · exact .refl orderNo tid w
      · exact .refl orderNo tid w
      cases done : writeCredit params loan credit now w with
      | error e => simpa [done] using Others.refl orderNo tid w
      | ok w' =>
        have wrote := writeCredit_ok (planCredit_ok planned).1 done
        have others : Others orderNo tid w w' := by
          refine ⟨written_preserves wrote, ?_, .of_view wrote.locks fun id held => ?_⟩
          · obtain ⟨_, _, _, _, rfl⟩ := wrote.eq
            exact fun _ h => h
          · refine wrote.loan_other fun same => ?_
            rw [← same, free] at held
            cases held
        simpa [done] using others

/-- The handler's own writes commit, and its pages go out. -/
def succeeds : Access → Answer → Bool
  | .storeUnmatchedInflow _ _, i | .upsertInflow _ _ _ _, i => !i.fails && !i.lost
  | .alertOps _, i => !i.fails
  | _, _ => true

/-- PalmPay confirms the order. -/
def requeryPasses (payload : CollectionNotification) : Access → Answer → Bool
  | .getCollectionOrderStatus _, i => !i.fails && confirms payload (collectionOrder i.order)
  | _, _ => true

/-- A lock that is taken on a REPAID loan is of an order that ops were paged about, or whose
inflow is matched. -/
def repaidSettled (orderNo : String) : Access → Answer → World → Bool
  | .lockLoan loanId, i, w =>
    i.fails || alerted orderNo w ||
      (w.inflows.all fun inflow => inflow.providerReference ≠ orderNo ∨ inflow.isMatched) ||
      (w.loans[loanId]?).all fun loan => loan.status ≠ .repaid
  | _, _, _ => true

/-- A delivery of the order, which deletes nothing; `passing` asks for a re-query that
confirms it. -/
def contract (payload : CollectionNotification) (passing : Prop) (tid : Nat) :
    Contract World Answer Access where
  inv := Kept payload.orderNo
  allowed label i w := succeeds label i = true ∧ repaidSettled payload.orderNo label i w = true ∧
    (passing → requeryPasses payload label i = true)
  rely := Others payload.orderNo tid
  guar _ _ s t := ∀ id, Stored payload.orderNo id s → Stored payload.orderNo id t

section Steps
variable {payload : CollectionNotification} {passing : Prop} {tid : Nat} {s : World}
  {post : α → World → Prop} {err : AppError → World → Prop}

/-- A read, in a state that is as known as the one before it. -/
theorem query_accounts {f : Answer → World → Except AppError α}
    (read : ∀ t, Others payload.orderNo tid s t → Kept payload.orderNo t → ∀ i,
      err .unavailable t ∧ (∀ e, f i t = .error e → err e t) ∧ ∀ a, f i t = .ok a → post a t) :
    (query f).Meets (contract payload passing tid) post err s :=
  query_meets fun t moved inv i _ => ⟨fun _ h => h, read t moved inv i⟩

/-- What holds of the order, and goes on to hold when it stays as known as it is. -/
def Lasting (orderNo : String) (carried : World → Prop) : Prop :=
  ∀ s t, Preserves orderNo s t → carried s → carried t

def Settled (orderNo : String) (id : Nat) (w : World) : Prop :=
  IsMatched id w ∨ alerted orderNo w = true

theorem Lasting.settled (orderNo : String) (id : Nat) : Lasting orderNo (Settled orderNo id) :=
  fun _ _ preserves => Or.imp (preserves.matched id) preserves.pages

theorem repaidSettled_lock {orderNo : String} {loanId id : Nat} {i : Answer} {w : World}
    (asked : repaidSettled orderNo (.lockLoan loanId) i w = true) (takes : i.fails = false)
    (stored : Stored orderNo id w) :
    Settled orderNo id w ∨ ∀ loan, w.loans[loanId]? = some loan → loan.status ≠ .repaid := by
  simp only [repaidSettled, takes, Bool.false_or, Bool.or_eq_true] at asked
  rcases asked with (known | matched) | unpaid
  · exact .inl (.inr known)
  · obtain ⟨inflow, found, named⟩ := stored
    have this := of_decide_eq_true (List.all_eq_true.mp matched inflow (List.mem_of_getElem? found))
    exact .inl (.inl ⟨inflow, found, this.resolve_left fun other => other named⟩)
  · refine .inr fun loan found => ?_
    exact of_decide_eq_true ((Option.all_eq_true _ _).mp unpaid loan found)

/-- The loan is locked and not REPAID. -/
structure Payable (tid loanId : Nat) (w : World) : Prop where
  held : w.rowLock loanId = some tid
  unpaid : ∀ loan, w.loans[loanId]? = some loan → loan.status ≠ .repaid

theorem Payable.mono {loanId : Nat} {orderNo : String} {s t : World} (payable : Payable tid loanId s)
    (others : Others orderNo tid s t) : Payable tid loanId t := by
  obtain ⟨held, same⟩ := others.rows.kept loanId payable.held
  exact ⟨held, fun loan found => payable.unpaid loan (same ▸ found)⟩

theorem planCredit_none {amountNgn : ℚ} {now : Time} {loan : Loan}
    {repayments : List LoanRepayment}
    (planned : planCredit amountNgn now loan repayments = .ok none) : loan.status = .repaid := by
  unfold planCredit at planned
  split at planned
  · assumption
  · split at planned <;> cases planned

/-- A credit under the lock writes its repayment, unless the loan is REPAID. -/
theorem creditBody_accounts {params : CreditParams} {carried : World → Prop}
    (lasting : Lasting payload.orderNo carried) (here : carried s)
    (payable : Payable tid params.loanId s ∨ Settled payload.orderNo params.inflowId s) :
    (creditBody tid params).Meets (contract payload passing tid)
      (fun _ t => carried t ∧ Settled payload.orderNo params.inflowId t) (fun _ => carried) s := by
  rw [creditBody, Proc.meets_bind]
  refine query_accounts fun t moved inv i => ?_
  have there := lasting s t moved.preserves here
  refine ⟨there, fun _ _ => there, fun read found => ?_⟩
  obtain ⟨rows, present, same⟩ := map_ok.mp found
  obtain rfl := same
  rw [Proc.meets_bind]
  rcases planned : planCredit params.amountNgn i.now rows.1 rows.2 with e | _ | credit
  · exact there
  · -- The loan was REPAID already when it was locked.
    have repaid := planCredit_none planned
    refine ⟨there, ?_⟩
    rcases payable with unpaid | settled
    · exact absurd repaid ((unpaid.mono moved).unpaid rows.1 (readLoan_found present))
    · exact Lasting.settled payload.orderNo params.inflowId s t moved.preserves settled
  · simp only [Proc.ofExcept, Proc.meets_pure, Proc.meets_bind]
    refine commit_meets fun u later inv _ j _ => ?_
    have still := lasting t u later.preserves there
    refine ⟨fun _ h => h, fun _ => still, fun _ _ => still, fun _ u' _ done => ?_⟩
    obtain ⟨v, wrote, -, rfl⟩ := map_pair_ok.mp done
    have written := writeCredit_ok (planCredit_ok planned).1 wrote
    have preserves : Preserves payload.orderNo u { v with credited := tid :: v.credited } :=
      (written_preserves written).trans (.of_same rfl rfl (fun h => h) fun h => h)
    have matched : IsMatched params.inflowId v := written_isMatched written
    have after := lasting _ _ preserves still
    exact ⟨preserves.kept inv, preserves.grows, fun _ => ⟨after, .inl matched⟩, fun _ => after⟩

theorem creditInflow_accounts {params : CreditParams} {carried : World → Prop}
    (lasting : Lasting payload.orderNo carried)
    (stored : ∀ t, carried t → Stored payload.orderNo params.inflowId t) (here : carried s) :
    (creditInflow tid params).Meets (contract payload passing tid)
      (fun _ t => carried t ∧ Settled payload.orderNo params.inflowId t) (fun _ => carried) s := by
  have both : Lasting payload.orderNo fun t =>
      carried t ∧ Settled payload.orderNo params.inflowId t := fun s t preserves =>
    And.imp (lasting s t preserves) (Lasting.settled payload.orderNo params.inflowId s t preserves)
  have locked (t : World) (locks : Nat → Option Nat) :
      Preserves payload.orderNo t { t with rowLock := locks } :=
    .of_same rfl rfl (fun h => h) fun h => h
  rw [creditInflow, Proc.meets_bind]
  cases floorCheck params with
  | error e => exact here
  | ok =>
    simp only [Proc.ofExcept, Proc.meets_pure, Proc.meets_bind]
    apply @lockingLoan_meets _ _ _ _ _ _ _ _
      (fun _ t => carried t ∧ Settled payload.orderNo params.inflowId t) (fun _ => carried)
    · intro t moved inv free i allowed
      have there := lasting s t moved.preserves here
      refine ⟨fun _ h => h, there, there, fun takes _ => ?_⟩
      have preserves := locked t (Function.update t.rowLock params.loanId (some tid))
      refine ⟨preserves.kept inv, preserves.grows, creditBody_accounts lasting (lasting _ _ preserves there) ?_⟩
      rcases repaidSettled_lock allowed.2.1 takes (stored t there) with settled | unpaid
      · exact .inr (Lasting.settled payload.orderNo params.inflowId t _ preserves settled)
      · exact .inl ⟨by simp, unpaid⟩
    · intro t u moved inv i _
      have preserves := moved.preserves.trans (locked u (Function.update u.rowLock params.loanId none))
      have unlocked := locked u (Function.update u.rowLock params.loanId none)
      refine ⟨fun done ended => ⟨unlocked.kept inv, unlocked.grows, ?_⟩,
        fun e ended => ⟨unlocked.kept inv, unlocked.grows, lasting _ _ preserves ended⟩⟩
      have credited := both _ _ preserves ended
      cases done.2 with
      | none => exact credited
      | some receipt =>
        rw [Proc.meets_bind]
        refine query_accounts fun v later _ _ => ?_
        have still := both _ _ later.preserves credited
        exact ⟨still.1, fun _ _ => still.1, fun _ _ => still⟩

/-- A page that goes out. -/
theorem page_accounts {alert : OpsAlert} {carried : World → Prop}
    (lasting : Lasting payload.orderNo carried) (here : carried s) :
    (page alert).Meets (contract payload passing tid)
      (fun _ t => carried t ∧ (alerts payload.orderNo alert = true →
        alerted payload.orderNo t = true)) err s := by
  rw [page, Proc.meets_access]
  intro t moved inv _ i allowed
  have sent : i.fails = false := by simpa [contract, succeeds] using allowed.1
  obtain ⟨orders, noted⟩ := noteAlert_eq alert { t with opsAlerts := t.opsAlerts ++ [alert] }
  have preserves : Preserves payload.orderNo t
      (noteAlert alert { t with opsAlerts := t.opsAlerts ++ [alert] }) := by
    rw [noted]
    refine .of_same rfl rfl (fun known => ?_) fun h => h
    simpa [alerted] using .inl (by simpa [alerted] using known)
  simp only [sent, Bool.false_eq_true, if_false]
  refine ⟨preserves.kept inv, preserves.grows,
    lasting _ _ preserves (lasting _ _ moved.preserves here), fun about => ?_⟩
  rw [noted]
  simp [alerted, about]

theorem inflowIsMatched_accounts {id : Nat} {carried : World → Prop}
    (lasting : Lasting payload.orderNo carried) (here : carried s) :
    (inflowIsMatched id).Meets (contract payload passing tid)
      (fun isMatched t => carried t ∧ (isMatched = true → IsMatched id t)) err s := by
  rw [inflowIsMatched, Proc.meets_catching]
  refine query_accounts fun t moved _ i => ?_
  have there := lasting s t moved.preserves here
  refine ⟨⟨there, fun h => absurd h Bool.false_ne_true⟩, fun _ impossible => (by cases impossible),
    fun isMatched read => ⟨there, fun matched => ?_⟩⟩
  rw [← Except.ok.inj read, Option.any_eq_true] at matched
  exact matched

theorem creditFailedBefore_accounts {carried : World → Prop}
    (lasting : Lasting payload.orderNo carried) (here : carried s) :
    (creditFailedBefore payload.orderNo).Meets (contract payload passing tid)
      (fun pagedBefore t => carried t ∧ (pagedBefore = true → alerted payload.orderNo t = true))
      err s := by
  rw [creditFailedBefore, Proc.meets_catching]
  refine query_accounts fun t moved kept i => ?_
  have there := lasting s t moved.preserves here
  refine ⟨⟨there, fun h => absurd h Bool.false_ne_true⟩, fun _ impossible => (by cases impossible),
    fun pagedBefore read => ⟨there, fun before => ?_⟩⟩
  rw [← Except.ok.inj read] at before
  exact kept.paged before

structure Owing (orderNo : String) (id : Nat) (w : World) : Prop where
  stored : Stored orderNo id w
  others : ∀ other, Stored orderNo other w → other = id ∨ Settled orderNo other w

theorem Owing.lasting (orderNo : String) (id : Nat) : Lasting orderNo (Owing orderNo id) :=
  fun s t preserves owing => ⟨(preserves.stored id).mpr owing.stored, fun other stored =>
    (owing.others other ((preserves.stored other).mp stored)).imp_right
      (Lasting.settled orderNo other s t preserves)⟩

theorem Owing.paged {orderNo : String} {id : Nat} {w : World} (owing : Owing orderNo id w)
    (settled : Settled orderNo id w) : Paged orderNo w := by
  intro other stored
  rcases owing.others other stored with rfl | known
  · exact settled
  · exact known

/-- How a delivery leaves the order. -/
structure Ended (orderNo : String) (passing : Prop) (outcome : WebhookOutcome) (w : World) : Prop where
  paged : Paged orderNo w
  stored : passing → ∃ id, Stored orderNo id w
  failed : outcome = .error → alerted orderNo w = true

theorem Ended.lasting (orderNo : String) (passing : Prop) (outcome : WebhookOutcome) :
    Lasting orderNo (Ended orderNo passing outcome) := fun _ _ preserves ended =>
  ⟨preserves.paged ended.paged, fun passes =>
    (ended.stored passes).imp fun id => (preserves.stored id).mpr, preserves.pages ∘ ended.failed⟩

theorem upsert_owing {row : Inflow} {t : World} (kept : Kept row.providerReference t)
    (paged : Paged row.providerReference t) (unmatched : row.isMatched = false) :
    let upserted := upsertInflow row t
    Kept row.providerReference upserted.2 ∧
      (∀ id, Stored row.providerReference id t → Stored row.providerReference id upserted.2) ∧
      Owing row.providerReference upserted.1.1 upserted.2 ∧
      (upserted.1.2.isMatched = true → IsMatched upserted.1.1 upserted.2) := by
  unfold upsertInflow
  cases found : findRow t.inflows fun inflow => inflow.providerReference = row.providerReference with
  | some stored =>
    obtain ⟨there, named⟩ := findRow_some found
    refine ⟨kept, fun _ h => h, ⟨⟨stored.2, there, of_decide_eq_true named⟩, fun other known =>
      .inr (paged other known)⟩, fun matched => ⟨stored.2, there, matched⟩⟩
  | none =>
    refine ⟨kept.concat unmatched, fun _ => stored_of_concat,
      ⟨stored_last rfl, fun other known => ?_⟩, fun matched => ?_⟩
    · rcases stored_concat known with ⟨inflow, there, named⟩ | last
      · cases (decide_eq_true named).symm.trans (findRow_none.mp found inflow (List.mem_of_getElem? there))
      · exact .inl last
    · rw [unmatched] at matched
      cases matched

/-- After a credit that failed: a duplicate, or ops are paged, unless they were before. -/
theorem failed_accounts {id : Nat} {credit : Except AppError CreditInflowResult}
    (owing : Owing payload.orderNo id s) :
    ((inflowIsMatched id).bind fun isMatched =>
      if isMatched then
        .pure (⟨.ignored, "inflow already matched (duplicate webhook)", some payload.orderNo⟩,
          some credit)
      else
        (creditFailedBefore payload.orderNo).bind fun pagedBefore =>
        (if pagedBefore then .pure ()
          else alertUnmatchedInflow payload.orderNo .creditFailed).bind fun _ =>
        .pure (⟨.error, creditFailedDetail, some payload.orderNo⟩, some credit) :
      Action Delivery).Meets (contract payload passing tid)
      (fun delivery => Ended payload.orderNo True delivery.1.outcome) err s := by
  have lasting := Owing.lasting payload.orderNo id
  rw [Proc.meets_bind]
  refine (inflowIsMatched_accounts lasting owing).imp ?_ fun _ _ h => h
  rintro isMatched t ⟨owing, matched⟩
  cases isMatched with
  | true =>
    exact ⟨owing.paged (.inl (matched rfl)), fun _ => ⟨_, owing.stored⟩, WebhookOutcome.noConfusion⟩
  | false =>
    simp only [Bool.false_eq_true, if_false]
    rw [Proc.meets_bind]
    refine (creditFailedBefore_accounts lasting owing).imp ?_ fun _ _ h => h
    rintro pagedBefore u ⟨owing, paged⟩
    rw [Proc.meets_bind]
    have ended (v : World) (owing : Owing payload.orderNo id v)
        (known : alerted payload.orderNo v = true) : Ended payload.orderNo True .error v :=
      ⟨owing.paged (.inr known), fun _ => ⟨_, owing.stored⟩, fun _ => known⟩
    cases pagedBefore with
    | true => exact ended u owing (paged rfl)
    | false =>
      refine Proc.Meets.imp (page_accounts lasting owing) ?_ fun _ _ h => h
      rintro _ v ⟨owing, known⟩
      exact ended v owing (known (by simp [alerts]))

/-- After a credit that returned, with a page when the order is not in PalmPay's books. -/
theorem credited_accounts {id loanId : Nat} {signatureOnly : Bool} {delivery : Delivery}
    (processed : delivery.1.outcome = .processed) (owing : Owing payload.orderNo id s)
    (settled : Settled payload.orderNo id s) :
    ((if signatureOnly then alertSignatureOnlyCredit payload.orderNo loanId else .pure ()).bind
      fun _ => .pure delivery : Action Delivery).Meets (contract payload passing tid)
      (fun delivery => Ended payload.orderNo True delivery.1.outcome) err s := by
  have both : Lasting payload.orderNo fun t =>
      Owing payload.orderNo id t ∧ Settled payload.orderNo id t := fun s t preserves =>
    And.imp (Owing.lasting payload.orderNo id s t preserves)
      (Lasting.settled payload.orderNo id s t preserves)
  have ended (t : World) (known : Owing payload.orderNo id t ∧ Settled payload.orderNo id t) :
      Ended payload.orderNo True delivery.1.outcome t := by
    rw [processed]
    exact ⟨known.1.paged known.2, fun _ => ⟨_, known.1.stored⟩, WebhookOutcome.noConfusion⟩
  rw [Proc.meets_bind]
  cases signatureOnly with
  | false => exact ended s ⟨owing, settled⟩
  | true =>
    refine Proc.Meets.imp (page_accounts both ⟨owing, settled⟩) ?_ fun _ _ h => h
    exact fun _ t known => ended t known.1

theorem settle_accounts {userId loanId : Nat} {signatureOnly : Bool}
    (paged : Paged payload.orderNo s) :
    (settle tid payload userId loanId signatureOnly).Meets (contract payload passing tid)
      (fun delivery => Ended payload.orderNo True delivery.1.outcome) err s := by
  rw [settle, Proc.meets_bind, Proc.meets_attempt]
  refine commit_meets fun t moved inv _ i allowed => ⟨fun _ h => h, fun fails => ?_,
    fun _ impossible => (by cases impossible), fun row t' _ done => ?_⟩
  · have sent := allowed.1
    simp [upsertAccess, succeeds, fails] at sent
  have upserted := @upsert_owing (verifiedInflow payload userId signatureOnly i.now) t inv
    (moved.preserves.paged paged) rfl
  rw [Except.ok.inj done] at upserted
  obtain ⟨kept, grows, owing, matchedBefore⟩ := upserted
  refine ⟨kept, grows, fun _ => ?_, fun lost => ?_⟩
  · dsimp only
    split
    · rename_i matched
      exact ⟨owing.paged (.inl (matchedBefore matched)), fun _ => ⟨_, owing.stored⟩,
        WebhookOutcome.noConfusion⟩
    · rw [Proc.meets_bind, Proc.meets_attempt]
      have credit := @creditInflow_accounts payload passing tid t'
        ⟨row.1, loanId, amountNgn payload, .autoAmount, false⟩ _
        (Owing.lasting payload.orderNo row.1) (fun _ => Owing.stored) owing
      refine credit.imp ?_ fun e u owing => failed_accounts owing
      exact fun result u ended => credited_accounts rfl ended.1 ended.2
  · have sent := allowed.1
    simp [upsertAccess, succeeds, lost] at sent

theorem storeUnmatchedInflow_accounts {userId : Option Nat} {reason : UnmatchedReason}
    (paged : Paged payload.orderNo s) :
    (storeUnmatchedInflow payload userId reason).Meets (contract payload passing tid)
      (fun _ t => Paged payload.orderNo t ∧ ∃ id, Stored payload.orderNo id t) err s := by
  rw [storeUnmatchedInflow, Proc.meets_bind, Proc.meets_attempt]
  refine createUnmatchedInflow_meets fun t moved inv i allowed => ?_
  have sent : i.fails = false ∧ i.lost = false := by
    simpa [contract, succeeds] using allowed.1
  have there := moved.preserves.paged paged
  refine ⟨fun fails => ?_, fun _ stored => ?_, fun _ new => ?_⟩
  · rw [sent.1] at fails
    cases fails
  · -- The order was stored before, and whoever stored it paged ops.
    obtain ⟨orders, noted⟩ := noteUntrusted_eq payload.orderNo reason t
    obtain ⟨inflow, member, named⟩ := isStored_iff.mp stored
    obtain ⟨id, found⟩ := List.mem_iff_getElem?.mp member
    rw [noted]
    exact ⟨⟨inv.repaid, inv.paged⟩, fun _ h => h, there, id, inflow, found, named⟩
  · let row := unmatchedInflow payload userId reason i.now
    let stored : World := { t with inflows := t.inflows ++ [row] }
    obtain ⟨orders, noted⟩ := noteUntrusted_eq payload.orderNo reason stored
    have kept : Kept payload.orderNo stored := inv.concat rfl
    have owing : Owing payload.orderNo t.inflows.length stored := by
      refine ⟨stored_last rfl, fun other known => ?_⟩
      rcases stored_concat known with before | last
      · exact .inr ((there other before).imp_left (isMatched_concat rfl).mpr)
      · exact .inl last
    rw [show noteUntrusted payload.orderNo reason { t with inflows := t.inflows ++ [row] } = _ from noted]
    refine ⟨⟨kept.repaid, kept.paged⟩, fun _ => stored_of_concat, fun _ => ?_, fun lost => ?_⟩
    · have lasting := Owing.lasting payload.orderNo t.inflows.length
      refine Proc.Meets.imp (page_accounts lasting ⟨owing.stored, owing.others⟩) ?_ fun _ _ h => h
      rintro _ u ⟨owing, known⟩
      exact ⟨owing.paged (.inr (known (by simp [alerts]))), _, owing.stored⟩
    · rw [sent.2] at lost
      cases lost

theorem getCollectionOrderStatus_accounts (paged : Paged payload.orderNo s) :
    (getCollectionOrderStatus payload).Meets (contract payload passing tid)
      (fun order t => Paged payload.orderNo t ∧ (passing → confirms payload order = true))
      (fun _ t => Paged payload.orderNo t ∧ ¬ passing) s := by
  rw [getCollectionOrderStatus, Proc.meets_access]
  intro t moved inv _ i allowed
  have there := moved.preserves.paged paged
  have same (orders : List ConfirmedOrder) :
      Preserves payload.orderNo t { t with confirmed := orders } :=
    .of_same rfl rfl (fun h => h) fun h => h
  cases fails : i.fails with
  | true =>
    refine ⟨inv, fun _ h => h, there, fun passes => ?_⟩
    have confirmed := allowed.2.2 passes
    simp [requeryPasses, fails] at confirmed
  | false =>
    have passed (passes : passing) : confirms payload (collectionOrder i.order) = true := by
      simpa [requeryPasses, fails] using allowed.2.2 passes
    simp only [Bool.false_eq_true, if_false]
    split
    · exact ⟨(same _).kept inv, (same _).grows, (same _).paged there, passed⟩
    · exact ⟨inv, fun _ h => h, there, passed⟩

def Known (payload : CollectionNotification) (w : World) : Prop :=
  ∃ account ∈ w.repaymentAccounts, some account.virtualAccountNo = payload.virtualAccountNo

/-- A collection that PalmPay says was paid, into the account of a known user. -/
structure Collected (payload : CollectionNotification) (w : World) : Prop where
  successful : payload.orderStatus = collectionStatusSuccess
  addressed : blank payload.virtualAccountNo = false
  known : Known payload w

theorem crossCheck_outcome {order : CollectionOrder} {refusal : Refusal}
    (refused : crossCheck payload order = .error refusal) : refusal.outcome ≠ .error := by
  unfold crossCheck at refused
  repeat' split at refused
  all_goals cases refused
  all_goals simp

theorem handle_accounts (paged : Paged payload.orderNo s)
    (collection : passing → Collected payload s) :
    (handle tid (some payload)).Meets (contract payload passing tid)
      (fun delivery => Ended payload.orderNo passing delivery.1.outcome)
      (fun _ => Paged payload.orderNo) s := by
  simp only [handle]
  split
  · rename_i other
    exact ⟨paged, fun passes => absurd (collection passes).successful other, WebhookOutcome.noConfusion⟩
  split
  · rename_i empty
    refine ⟨paged, fun passes => ?_, WebhookOutcome.noConfusion⟩
    rw [(collection passes).addressed] at empty
    cases empty
  rw [Proc.meets_bind]
  refine query_accounts fun t moved _ i => ?_
  have there := moved.preserves.paged paged
  refine ⟨there, fun _ _ => there, fun found read => ?_⟩
  cases found with
  | none =>
    refine ⟨there, fun passes => ?_, WebhookOutcome.noConfusion⟩
    obtain ⟨account, member, same⟩ := (collection passes).known
    have missing := findRow_none.mp (Except.ok.inj read) account (moved.accounts account member)
    cases (decide_eq_true same).symm.trans missing
  | some account =>
    dsimp only
    rw [Proc.meets_bind]
    have reads : (matchLoan payload account.2.userId).Meets (contract payload passing tid)
        (fun _ => Paged payload.orderNo) (fun _ => Paged payload.orderNo) t :=
      Proc.Looks.meets (matchLoan_looks trivial)
        (fun s t (others : Others payload.orderNo tid s t) => others.preserves.paged)
        (fun _ _ _ (_ : True) _ h => h) there
    refine reads.imp ?_ fun _ _ h => h
    intro matched u paged
    cases matched with
    | error reason =>
      dsimp only
      rw [Proc.meets_bind]
      refine (storeUnmatchedInflow_accounts paged).imp ?_ fun _ _ h => h
      exact fun _ v parked => ⟨parked.1, fun _ => parked.2, WebhookOutcome.noConfusion⟩
    | ok loanId =>
      dsimp only
      rw [Proc.meets_bind, Proc.meets_attempt]
      refine (getCollectionOrderStatus_accounts paged).imp ?_ ?_
      · rintro order v ⟨paged, passed⟩
        dsimp only
        cases checked : crossCheck payload order with
        | ok =>
          refine (settle_accounts paged).imp ?_ fun _ _ h => h
          exact fun delivery x ended => ⟨ended.paged, fun _ => ended.stored trivial, ended.failed⟩
        | error refusal =>
          have refused : ¬ passing := fun passes => by
            cases (crossCheck_ok.mpr (passed passes)).symm.trans checked
          have quiet := crossCheck_outcome checked
          dsimp only
          rw [Proc.meets_bind]
          cases refusal.stored with
          | none => exact ⟨paged, fun passes => absurd passes refused, fun failed => absurd failed quiet⟩
          | some reason =>
            refine (storeUnmatchedInflow_accounts paged).imp ?_ fun _ _ h => h
            exact fun _ x parked => ⟨parked.1, fun passes => absurd passes refused,
              fun failed => absurd failed quiet⟩
      · rintro e v ⟨paged, refused⟩
        exact ⟨paged, fun passes => absurd passes refused, WebhookOutcome.noConfusion⟩

/-- A log that does not say that a credit of the order failed, or says what ops know. -/
theorem log_accounts {f : Answer → World → Except AppError (α × World)} {handler : Action α}
    {carried : World → Prop} (lasting : ∀ t logs, carried t → carried { t with webhookLogs := logs })
    (relies : ∀ s t, Others payload.orderNo tid s t → carried s → carried t)
    (logs : ∀ t, carried t → ∀ i a u, f i t = .ok (a, u) → ∃ rows, u = { t with webhookLogs := rows } ∧
      ((rows.any (creditFailedLog payload.orderNo)) = true →
        (t.webhookLogs.any (creditFailedLog payload.orderNo)) = true ∨
          alerted payload.orderNo t = true))
    (here : carried s)
    (caught : ∀ t, carried t → handler.Meets (contract payload passing tid)
      (fun _ => carried) (fun _ => carried) t) :
    ((commit .webhookLog (fun _ => true) f).catching fun _ => handler).Meets
      (contract payload passing tid) (fun _ => carried) (fun _ => carried) s := by
  rw [Proc.meets_catching]
  refine commit_meets fun t moved inv _ i _ => ?_
  have there := relies s t moved here
  refine ⟨fun _ h => h, fun _ => caught t there, fun _ _ => caught t there, fun a u _ done => ?_⟩
  obtain ⟨rows, rfl, known⟩ := logs t there i a u done
  have after := lasting t rows there
  refine ⟨⟨inv.repaid, fun logged => ?_⟩, fun _ h => h, fun _ => after, fun _ => caught _ after⟩
  exact (known logged).elim inv.paged fun known => known

theorem updateOutcome_accounts {logId : Option Nat} {outcome : WebhookOutcome}
    {detail reference : Option String} {carried : World → Prop}
    (lasting : ∀ t logs, carried t → carried { t with webhookLogs := logs })
    (relies : ∀ s t, Others payload.orderNo tid s t → carried s → carried t)
    (failed : ∀ t, carried t → outcome = .error → reference = some payload.orderNo →
      alerted payload.orderNo t = true) (here : carried s) :
    (updateOutcome logId (loggedOutcome true outcome detail reference)).Meets
      (contract payload passing tid) (fun _ => carried) (fun _ => carried) s := by
  cases logId with
  | none => exact here
  | some id =>
    refine log_accounts lasting relies (fun t there i a u done => ?_) here fun _ there => there
    obtain ⟨rows, updated, -, rfl⟩ := map_pair_ok.mp done
    obtain ⟨log, found, rfl⟩ := updateRow_ok.mp updated
    refine ⟨_, rfl, fun logged => ?_⟩
    obtain ⟨entry, member, isFailure⟩ := List.any_eq_true.mp logged
    rcases List.mem_or_eq_of_mem_set member with old | rfl
    · exact .inl (List.any_eq_true.mpr ⟨entry, old, isFailure⟩)
    · obtain ⟨_, of, isError, _⟩ := of_decide_eq_true isFailure
      exact .inr (failed t there isError of)

/-- A delivery leaves no unmatched inflow of its order that ops do not know of; one that
passes leaves an inflow. -/
theorem handleWebhook_accounts (paged : Paged payload.orderNo s)
    (collection : passing → Collected payload s) :
    (handleWebhook tid true (some payload)).Meets (contract payload passing tid)
      (fun _ t => Paged payload.orderNo t ∧ (passing → ∃ id, Stored payload.orderNo id t))
      (fun _ => Paged payload.orderNo) s := by
  have recorded : (record "palmpay").Meets (contract payload passing tid)
      (fun _ t => Paged payload.orderNo t ∧ (passing → Collected payload t))
      (fun _ t => Paged payload.orderNo t ∧ (passing → Collected payload t)) s := by
    refine log_accounts (fun t logs there => ⟨there.1, fun passes => ?_⟩) (fun s t others there => ?_)
      (fun t _ i a u done => ?_) ⟨paged, collection⟩ fun _ there => there
    · exact ⟨(there.2 passes).successful, (there.2 passes).addressed, (there.2 passes).known⟩
    · refine ⟨others.preserves.paged there.1, fun passes => ?_⟩
      obtain ⟨account, member, same⟩ := (there.2 passes).known
      exact ⟨(there.2 passes).successful, (there.2 passes).addressed, account,
        others.accounts account member, same⟩
    · refine ⟨_, (Prod.mk.inj (Except.ok.inj done)).2.symm, fun logged => .inl ?_⟩
      simpa [creditFailedLog] using logged
  rw [handleWebhook, Proc.meets_bind]
  refine recorded.imp ?_ fun _ _ there => there.1
  rintro logId t ⟨paged, collection⟩
  simp only [if_true]
  rw [Proc.meets_bind, Proc.meets_attempt]
  refine (handle_accounts paged collection).imp ?_ ?_
  · intro delivery u ended
    dsimp only
    rw [Proc.meets_bind]
    have updated := @updateOutcome_accounts payload passing tid u logId delivery.1.outcome
      (some delivery.1.outcomeDetail) delivery.1.externalReference
      (Ended payload.orderNo passing delivery.1.outcome)
      (fun t logs there => ⟨there.paged, there.stored, there.failed⟩)
      (fun s t others => Ended.lasting payload.orderNo passing delivery.1.outcome s t others.preserves)
      (fun t there isError _ => there.failed isError) ended
    exact updated.imp (fun _ _ there => ⟨there.paged, there.stored⟩) fun _ _ there => there.paged
  · intro e u paged
    dsimp only
    rw [Proc.meets_bind]
    refine updateOutcome_accounts (fun t logs there => there)
      (fun s t others there => others.preserves.paged there) (fun t _ _ none => ?_) paged
    cases none

end Steps

structure Undelivered (orderNo : String) (w : World) : Prop where
  new : ∀ inflow ∈ w.inflows, inflow.providerReference ≠ orderNo
  unlogged : (w.webhookLogs.any (creditFailedLog orderNo)) = false

/-- A delivery that has ended, with the state it started in. -/
structure Redelivery where
  payload : CollectionNotification
  before : World
  trace : List (Event World Answer Access)
  result : Except AppError Delivery

/-- Signed deliveries of one order, one after the other, each amid what others do. -/
inductive History (orderNo : String) (w₀ : World) : List Redelivery → World → Prop where
  | nil : History orderNo w₀ [] w₀
  | deliver {payload : CollectionNotification} : History orderNo w₀ past s →
      payload.orderNo = orderNo →
      (handleWebhook tid true (some payload)).Amid (Others orderNo tid) s trace result t →
      History orderNo w₀ (past ++ [⟨payload, s, trace, result⟩]) t

/-- The delivery returned, and its collection was paid, into the account of a known user,
and confirmed where PalmPay was asked. -/
structure Verified (d : Redelivery) : Prop where
  collected : Collected d.payload d.before
  confirmed : ∀ e ∈ d.trace, requeryPasses d.payload e.label e.answer = true
  returned : ∃ delivery, d.result = .ok delivery

/-- What is known of the order between two deliveries. -/
structure Tracked (orderNo : String) (past : List Redelivery) (w : World) : Prop where
  kept : Kept orderNo w
  paged : Paged orderNo w
  stored : ∀ d ∈ past, Verified d → ∃ id, Stored orderNo id w

theorem Undelivered.tracked {orderNo : String} {w : World} (undelivered : Undelivered orderNo w) :
    Tracked orderNo [] w where
  kept := by
    refine ⟨fun id ⟨inflow, found, named⟩ => ?_, fun logged => ?_⟩
    · exact absurd named (undelivered.new inflow (List.mem_of_getElem? found))
    · rw [undelivered.unlogged] at logged
      cases logged
  paged id := fun ⟨inflow, found, named⟩ =>
    absurd named (undelivered.new inflow (List.mem_of_getElem? found))
  stored := by simp

theorem Tracked.deliver {orderNo : String} {past : List Redelivery} {s t : World} {tid : Nat}
    {payload : CollectionNotification} {trace : List (Event World Answer Access)}
    {result : Except AppError Delivery} (tracked : Tracked orderNo past s)
    (of : payload.orderNo = orderNo)
    (ran : (handleWebhook tid true (some payload)).Amid (Others orderNo tid) s trace result t)
    (succeed : ∀ e ∈ trace, succeeds e.label e.answer = true)
    (repaid : ∀ e ∈ trace, repaidSettled orderNo e.label e.answer e.before = true) :
    Tracked orderNo (past ++ [⟨payload, s, trace, result⟩]) t := by
  subst of
  let passing := Collected payload s ∧ ∀ e ∈ trace, requeryPasses payload e.label e.answer = true
  let before (u : World) : Prop := (∃ d ∈ past, Verified d) → ∃ id, Stored payload.orderNo id u
  have growing (u v : World) (grows : ∀ id, Stored payload.orderNo id u → Stored payload.orderNo id v)
      (here : before u) : before v := fun verified => (here verified).imp grows
  have delivers : (handleWebhook tid true (some payload)).Meets (contract payload passing tid)
      (fun _ u => (Paged payload.orderNo u ∧ (passing → ∃ id, Stored payload.orderNo id u)) ∧ before u)
      (fun _ u => Paged payload.orderNo u ∧ before u) s :=
    (handleWebhook_accounts tracked.paged And.left).frame
      (fun u v (others : Others payload.orderNo tid u v) => growing u v others.preserves.grows)
      (fun _ _ u v grows => growing u v grows)
      fun ⟨d, member, verified⟩ => tracked.stored d member verified
  obtain ⟨kept, ended⟩ := delivers.amid
    (fun u v (others : Others payload.orderNo tid u v) => others.preserves.kept)
    (fun _ u v (others : Others payload.orderNo tid u v) ended => by
      refine ⟨⟨others.preserves.paged ended.1.1, fun passes => ?_⟩, ?_⟩
      · exact (ended.1.2 passes).imp others.preserves.grows
      · exact growing u v others.preserves.grows ended.2)
    (fun _ u v (others : Others payload.orderNo tid u v) ended =>
      ⟨others.preserves.paged ended.1, growing u v others.preserves.grows ended.2⟩)
    tracked.kept ran
    fun e member => ⟨succeed e member, repaid e member, fun passes => passes.2 e member⟩
  have earlier (here : before t) : ∀ d ∈ past, Verified d → ∃ id, Stored payload.orderNo id t :=
    fun d member verified => here ⟨d, member, verified⟩
  cases result with
  | error e =>
    refine ⟨kept, ended.1, fun d member verified => ?_⟩
    rcases List.mem_append.mp member with old | new
    · exact earlier ended.2 d old verified
    · obtain rfl := List.mem_singleton.mp new
      obtain ⟨_, returned⟩ := verified.returned
      cases returned
  | ok delivery =>
    refine ⟨kept, ended.1.1, fun d member verified => ?_⟩
    rcases List.mem_append.mp member with old | new
    · exact earlier ended.2 d old verified
    · obtain rfl := List.mem_singleton.mp new
      exact ended.1.2 ⟨verified.collected, verified.confirmed⟩

/-- In deliveries whose own writes and pages succeed, and whose credits lock no REPAID loan
for an inflow that is unmatched and not paged, no verified collection is dropped: each is
accounted for when its delivery returns and after every later one. -/
theorem collections_accounted {orderNo : String} {w₀ w : World} {past : List Redelivery}
    (undelivered : Undelivered orderNo w₀) (history : History orderNo w₀ past w)
    (succeed : ∀ d ∈ past, ∀ e ∈ d.trace, succeeds e.label e.answer = true)
    (repaid : ∀ d ∈ past, ∀ e ∈ d.trace,
      repaidSettled orderNo e.label e.answer e.before = true) :
    ∀ d ∈ past, Verified d → Accounted orderNo w := by
  have tracked : Tracked orderNo past w := by
    induction history with
    | nil => exact undelivered.tracked
    | deliver history of ran ih =>
      refine (ih (fun d member => succeed d (by simp [member])) fun d member =>
        repaid d (by simp [member])).deliver of ran ?_ ?_
      · exact succeed _ (List.mem_append_right _ (List.mem_singleton.mpr rfl))
      · exact repaid _ (List.mem_append_right _ (List.mem_singleton.mpr rfl))
  intro d member verified
  obtain ⟨id, stored⟩ := tracked.stored d member verified
  exact tracked.kept.accounted tracked.paged stored

def earlierInflow (amount : ℚ) : Inflow where
  userId := some 0
  amount := amount
  currency := .ngn
  receivingAddress := "0100000001"
  providerReference := "order-0"
  createdAt := 0

def oneEarlierInflow (amount : ℚ) : World :=
  { oneActiveLoan with inflows := [earlierInflow amount] }

def collection : CollectionNotification :=
  ⟨"order-1", 1, 4000000, some "0100000001", some "signature"⟩

def creditEarlier (amount : ℚ) (w : World) : World :=
  if w.rowLock 0 = none then (creditOnce ⟨0, 0, amount, .customerClaim, false⟩ 0 w).2 else w

theorem creditEarlier_others (amount : ℚ) (orderNo : String) (tid : Nat) (w : World) :
    Others orderNo tid w (creditEarlier amount w) := by
  unfold creditEarlier
  split
  · exact creditOnce_others ‹_›
  · exact .refl orderNo tid w

/-- The delivery has found the loan ACTIVE and stored its inflow; the customer's credit comes
before the lock. -/
def creditBeforeLock (amount : ℚ) : List ((World → World) × Answer) :=
  [(id, {}), (id, {}), (id, {}), (id, settledWith 4000000), (id, {}), (creditEarlier amount, {}),
    (id, {}), (id, {}), (id, {}), (id, {}), (id, {})]

/-- `collection` is verified, and the delivery's own writes succeed. -/
def passes (r : List (Event World Answer Access) × Except AppError Delivery × World) : Bool :=
  r.2.1.isOk && r.1.all fun e =>
    succeeds e.label e.answer && requeryPasses collection e.label e.answer

theorem credit_before_lock {amount : ℚ} {check : List (Event World Answer Access) → World → Bool}
    (played : (((handleWebhook 0 true (some collection)).playAmid (creditBeforeLock amount)
      (oneEarlierInflow amount)).any fun r => passes r && check r.1 r.2.2) = true) :
    ∃ trace result w,
      History "order-1" (oneEarlierInflow amount)
        [⟨collection, oneEarlierInflow amount, trace, result⟩] w ∧
      Undelivered "order-1" (oneEarlierInflow amount) ∧
      Verified ⟨collection, oneEarlierInflow amount, trace, result⟩ ∧
      (∀ e ∈ trace, succeeds e.label e.answer = true) ∧ check trace w = true := by
  obtain ⟨⟨trace, result, w⟩, ran, checked⟩ := (Option.any_eq_true _ _).mp played
  obtain ⟨passed, holds⟩ := Bool.and_eq_true_iff.mp checked
  obtain ⟨returned, all⟩ := Bool.and_eq_true_iff.mp passed
  have each (e : Event World Answer Access) (member : e ∈ trace) :=
    Bool.and_eq_true_iff.mp (List.all_eq_true.mp all e member)
  have own : ∀ m ∈ creditBeforeLock amount, ∀ u, Others "order-1" 0 u (m.1 u) := by
    simp only [creditBeforeLock, List.mem_cons, List.not_mem_nil, or_false, forall_eq_or_imp,
      forall_eq]
    simp [Others.refl, creditEarlier_others]
  have amid : (handleWebhook 0 true (some collection)).Amid (Others "order-1" 0)
      (oneEarlierInflow amount) trace result w :=
    Proc.playAmid_amid (Others.refl "order-1" 0) own ran
  refine ⟨trace, result, w, .deliver .nil rfl amid, ?_, ?_, fun e member => (each e member).1, holds⟩
  · exact ⟨by simp [oneEarlierInflow, earlierInflow], rfl⟩
  · have collected : Collected collection (oneEarlierInflow amount) :=
      ⟨rfl, by decide, ⟨0, "0100000001"⟩, by simp [oneEarlierInflow, oneActiveLoan], rfl⟩
    refine ⟨collected, fun e member => (each e member).2, ?_⟩
    cases result with
    | error e => cases returned
    | ok delivery => exact ⟨delivery, rfl⟩

theorem collections_accounted_meanwhile : ∃ past w,
    History "order-1" (oneEarlierInflow 20000) past w ∧ w.repayments.length = 2 ∧
    ∀ d ∈ past, Verified d ∧ Accounted "order-1" w := by
  have played := @credit_before_lock 20000 (fun trace w => decide (w.repayments.length = 2 ∧
    ∀ e ∈ trace, repaidSettled "order-1" e.label e.answer e.before = true)) (by decide +kernel)
  obtain ⟨trace, result, w, history, undelivered, verified, succeed, checked⟩ := played
  obtain ⟨both, settled⟩ := of_decide_eq_true checked
  refine ⟨_, w, history, both, fun d member => ?_⟩
  have accounted := collections_accounted undelivered history
    (fun d member => List.mem_singleton.mp member ▸ succeed)
    (fun d member => List.mem_singleton.mp member ▸ settled) d member
  obtain rfl := List.mem_singleton.mp member
  exact ⟨verified, accounted verified⟩

def dropped (orderNo : String) (w : World) : Bool :=
  !alerted orderNo w && w.repayments.all fun r =>
    (w.inflows[r.inflowId]?).all fun inflow => inflow.providerReference ≠ orderNo

theorem dropped_unaccounted {orderNo : String} {w : World} (isDropped : dropped orderNo w = true) :
    ¬ Accounted orderNo w := by
  obtain ⟨quiet, unpaid⟩ := Bool.and_eq_true_iff.mp isDropped
  rintro ⟨id, ⟨inflow, found, named⟩, ⟨r, member, rfl⟩ | ⟨_, known⟩⟩
  · have other := List.all_eq_true.mp unpaid r member
    simp [found, named] at other
  · rw [known] at quiet
    cases quiet

/-- The earlier credit repays the loan, and the delivery's own returns as if it were made. -/
theorem collection_dropped : ∃ past w,
    History "order-1" (oneEarlierInflow 200000) past w ∧ Undelivered "order-1" (oneEarlierInflow 200000) ∧
    (∀ d ∈ past, ∀ e ∈ d.trace, succeeds e.label e.answer = true) ∧
    ∃ d ∈ past, Verified d ∧ ¬ Accounted "order-1" w := by
  have played := @credit_before_lock 200000 (fun _ => dropped "order-1") (by decide +kernel)
  obtain ⟨trace, result, w, history, undelivered, verified, succeed, isDropped⟩ := played
  refine ⟨_, w, history, undelivered, fun d member => List.mem_singleton.mp member ▸ succeed, ?_⟩
  exact ⟨_, List.mem_singleton.mpr rfl, verified, dropped_unaccounted isDropped⟩

end Bitmonie.CollectionAccounting
