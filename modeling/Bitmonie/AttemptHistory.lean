import Bitmonie.AttemptWrites
import Bitmonie.Histories

/-! What a call has done before it inserts an attempt, sends it, and records that it was sent:
it has looked at the disbursement, and then it has inserted that attempt. -/
namespace Bitmonie.AttemptHistory
open DisbursementsService DisbursementProvider OutflowsService OpsDisbursementsService PayoutRules
  PayoutRecords

abbrev PayoutEvent := Event World Answer Access

/-- PENDING or PROCESSING, of this disbursement. -/
def active (disbursementId : Nat) (outflow : Outflow) : Bool :=
  outflow.disbursementId = disbursementId && outflow.status.inFlight

def activeCount (disbursementId : Nat) (w : World) : Nat := w.outflows.countP (active disbursementId)

def onHold (disbursementId : Nat) (w : World) : Bool :=
  w.disbursements[disbursementId]?.any fun row => row.status = .onHold

def inserts (e : PayoutEvent) : Bool :=
  match e.label with
  | .createOutflow _ => e.before.outflows.length < e.after.outflows.length
  | _ => false

/-- The last access of the call was a read, which found the disbursement ON_HOLD or no attempt
of it active. -/
def Looked (disbursementId : Nat) (past : List PayoutEvent) : Prop :=
  ∃ earlier read, past = earlier ++ [read] ∧ read.after = read.before ∧
    (onHold disbursementId read.before = true ∨ activeCount disbursementId read.before = 0)

/-- The last attempt that the call has inserted, as row `id`. -/
def Inserted (id : Nat) (reference : OutflowReference) (past : List PayoutEvent) : Prop :=
  ∃ earlier made later, past = earlier ++ made :: later ∧ (∀ e ∈ later, inserts e = false) ∧
    inserts made = true ∧ made.before.outflows.length = id ∧
    ∃ created : Outflow, created.disbursementId = reference.disbursementId ∧
      created.status = .pending ∧ created.providerReference = reference ∧
      made.after.outflows = made.before.outflows ++ [created]

/-- Before an insert the call has looked, and before a transfer is sent, or recorded as sent,
it has inserted the attempt. -/
def Prepared (past : List PayoutEvent) (e : PayoutEvent) : Prop :=
  match e.label with
  | .createOutflow disbursementId => Looked disbursementId past
  | .outflowStatus id .processing => ∃ reference, Inserted id reference past
  | .initiateTransfer reference => ∃ id, Inserted id reference past
  | _ => True

theorem Inserted.later {id : Nat} {reference : OutflowReference} {past : List PayoutEvent}
    (inserted : Inserted id reference past) {e : PayoutEvent} (other : inserts e = false) :
    Inserted id reference (past ++ [e]) := by
  obtain ⟨earlier, made, later, rfl, rest, row⟩ := inserted
  refine ⟨earlier, made, later ++ [e], by simp, fun e' member => ?_, row⟩
  rcases List.mem_append.mp member with old | new
  · exact rest e' old
  · obtain rfl := List.mem_singleton.mp new
    exact other

def Aside (label : Access) : Prop :=
  match label with
  | .createOutflow _ | .outflowStatus _ .processing | .initiateTransfer _ => False
  | _ => True

def aside : Contract World Answer Access where
  inv _ := True
  allowed _ _ _ := True
  rely _ _ := True
  guar label _ _ _ := Aside label

theorem access_complies (label : Access) (known : Aside label) {enabled : World → Bool}
    {f : Answer → World → Except AppError α × World} :
    (Proc.access label enabled f : Action α).Complies aside := by
  intro s
  rw [Proc.meets_access]
  intro t _ _ _ i _
  refine ⟨trivial, known, ?_⟩
  unfold Proc.outcome
  split <;> trivial

theorem along_of_complies {p : Action α} {past : List PayoutEvent} (complies : p.Complies aside) :
    p.Along Prepared (fun _ _ => True) past := by
  refine complies.along fun past label i s t known => ?_
  unfold Prepared
  dsimp only
  split
  · exact absurd known id
  · exact absurd known id
  · exact absurd known id
  · trivial

theorem markOnHoldAndMaybeAlert_complies {disbursementId : Nat} {failureReason : String} :
    (markOnHoldAndMaybeAlert disbursementId failureReason).Complies aside := by
  refine Proc.Complies.bind ?_ fun isFirstTransition => ?_
  · refine (access_complies (.disbursementStatus disbursementId .onHold) trivial).bind
      fun isFirstTransition => ?_
    split
    · exact fun _ => trivial
    · exact (access_complies .read trivial).bind fun _ _ => trivial
  · split
    · refine (access_complies .read trivial).bind fun fresh => ?_
      cases fresh with
      | none => exact fun _ => trivial
      | some row => exact access_complies (.onHoldAlerted disbursementId) trivial
    · exact fun _ => trivial

theorem handleFailure_complies {tid id disbursementId : Nat} {failureReason : String}
    {failureCode : Option String} :
    (handleFailure tid id disbursementId failureReason failureCode).Complies aside :=
  (access_complies (.outflowStatus id .failed) trivial).bind fun _ => markOnHoldAndMaybeAlert_complies

theorem handleSuccess_complies {tid id disbursementId : Nat} {providerTxId : String} :
    (handleSuccess tid id disbursementId providerTxId).Complies aside := by
  refine (access_complies (.outflowStatus id .successful) trivial).bind fun _ => ?_
  refine (access_complies (.disbursementStatus disbursementId .successful) trivial).bind fun _ => ?_
  refine (access_complies .read trivial).bind fun fresh => ?_
  cases fresh with
  | none => exact fun _ => trivial
  | some row => exact access_complies .read trivial

theorem cancel_complies {disbursementId opsUserId : Nat} {reason : String} :
    (cancel disbursementId opsUserId reason).Complies aside := by
  refine (access_complies .read trivial).bind fun existing => ?_
  split
  · exact Proc.complies_throw
  · exact access_complies (.disbursementStatus disbursementId .cancelled) trivial

theorem abandonAttempt_complies {tid disbursementId : Nat} {reason : String} :
    (abandonAttempt tid disbursementId reason).Complies aside := by
  refine (access_complies .read trivial).bind fun existing => ?_
  dsimp only
  split
  · exact Proc.complies_throw
  split
  · exact Proc.complies_throw
  exact (access_complies .audit trivial).bind fun _ => Proc.complies_each fun _ => handleFailure_complies

theorem handle_complies {tid : Nat} {parsed : Option PalmpayPayoutWebhook.PayoutNotification} :
    (PalmpayPayoutWebhook.handle tid parsed).Complies aside := by
  cases parsed with
  | none => exact fun _ => trivial
  | some payload =>
    refine (access_complies .read trivial).bind fun found => ?_
    cases found with
    | none => exact fun _ => trivial
    | some outflow =>
      dsimp only
      split
      · exact fun _ => trivial
      refine (access_complies .read trivial).attempt.bind fun verified => ?_
      cases verified with
      | error e => exact fun _ => trivial
      | ok verified =>
        dsimp only
        split
        · exact handleSuccess_complies.bind fun _ _ => trivial
        · exact handleFailure_complies.bind fun _ _ => trivial
        · exact fun _ => trivial

theorem runReconcilerCycle_complies {tid : Nat} :
    (OutflowReconciler.runReconcilerCycle tid).Complies aside := by
  refine (access_complies .read trivial).bind fun stale => (access_complies .redis trivial).bind fun _ =>
    Proc.complies_each fun outflow => Proc.Complies.catching ?_ fun _ _ => trivial
  unfold OutflowReconciler.reconcileOutflow
  split
  · exact fun _ => trivial
  refine (access_complies .read trivial).bind fun status => ?_
  split
  · exact handleSuccess_complies
  · exact handleFailure_complies
  · exact fun _ => trivial

section Paying
variable {past : List PayoutEvent} {disbursementId : Nat}

/-- A read leaves the state, and what it returns is what `f` makes of it. -/
theorem query_along {f : Answer → World → Except AppError α} :
    (query f).Along Prepared
      (fun past a => ∃ earlier read, past = earlier ++ [read] ∧ read.after = read.before ∧
        f read.answer read.before = .ok a) past := by
  refine Proc.along_access fun i s => ⟨trivial, fun a ended => ⟨past, _, rfl, ?_, ?_⟩⟩
  · cases i.fails <;> rfl
  · cases fails : i.fails with
    | true => simp [fails] at ended
    | false => simpa [fails] using ended

/-- A write that fails leaves the state. -/
theorem commit_along {label : Access} {enabled : World → Bool}
    {f : Answer → World → Except AppError (α × World)} {post : List PayoutEvent → α → Prop}
    (prepared : ∀ i s t, Prepared past ⟨label, i, s, t⟩)
    (wrote : ∀ i s a t, f i s = .ok (a, t) → post (past ++ [⟨label, i, s, t⟩]) a) :
    (commit label enabled f).Along Prepared post past := by
  refine Proc.along_access fun i s => ⟨prepared i s _, fun a ended => ?_⟩
  unfold committed at ended ⊢
  cases fails : i.fails with
  | true => simp [fails] at ended
  | false =>
    simp only [fails, Bool.false_eq_true, if_false] at ended ⊢
    cases done : f i s with
    | error e => simp [done] at ended
    | ok result =>
      cases lost : i.lost with
      | true => simp [done, lost] at ended
      | false =>
        obtain rfl : result.1 = a := by simpa [done, lost] using ended
        exact wrote i s _ _ done

theorem createOutflow_along {disbursement : Loaded} {attemptNumber : Nat}
    (looked : Looked disbursement.id past) :
    (createOutflow disbursement attemptNumber).Along Prepared
      (fun past id => Inserted id ⟨attemptNumber, disbursement.id⟩ past) past := by
  refine commit_along (fun _ _ _ => looked) fun i s id t done => ?_
  obtain ⟨-, done⟩ := unless_ok.mp done
  obtain ⟨-, done⟩ := unless_ok.mp done
  obtain ⟨same, after⟩ := Prod.mk.inj (Except.ok.inj done)
  obtain ⟨created, owner, pending, reference, rows⟩ : ∃ created : Outflow,
      created.disbursementId = disbursement.id ∧ created.status = .pending ∧
        created.providerReference = ⟨attemptNumber, disbursement.id⟩ ∧
        t.outflows = s.outflows ++ [created] := by
    refine ⟨_, ?_, ?_, ?_, (congrArg World.outflows after).symm⟩ <;> rfl
  refine ⟨past, _, [], rfl, by simp, ?_, same, created, owner, pending, reference, rows⟩
  simp [inserts, rows]

/-- One access of a call that goes on with its attempt. -/
theorem access_along {id : Nat} {reference : OutflowReference} (label : Access)
    {enabled : World → Bool} {f : Answer → World → Except AppError α × World}
    (prepared : ∀ i s, Prepared past ⟨label, i, s, (f i s).2⟩)
    (other : ∀ disbursementId, label ≠ .createOutflow disbursementId)
    (inserted : Inserted id reference past) :
    (Proc.access label enabled f : Action α).Along Prepared
      (fun past _ => Inserted id reference past) past := by
  refine Proc.along_access fun i s => ⟨prepared i s, fun _ _ => inserted.later ?_⟩
  unfold inserts
  split
  · rename_i disbursementId same
    exact absurd same (other disbursementId)
  · rfl

theorem initiate_along {disbursement : Loaded} {reference : OutflowReference} {id : Nat}
    (inserted : Inserted id reference past) :
    (initiate disbursement reference id).Along Prepared (fun _ _ => True) past := by
  unfold initiate
  split
  · trivial
  refine (access_along (.initiateTransfer reference) (fun _ _ => ⟨id, inserted⟩)
    (fun _ => Access.noConfusion) inserted).seq fun past providerTxId inserted => ?_
  exact (access_along (.outflowStatus id .processing) (fun _ _ => ⟨reference, inserted⟩)
    (fun _ => Access.noConfusion) inserted).imp fun _ _ _ => trivial

theorem executeDispatch_along {tid attemptNumber : Nat} {disbursement : Loaded}
    (looked : Looked disbursement.id past) :
    (executeDispatch tid disbursement attemptNumber).Along Prepared (fun _ _ => True) past := by
  refine (createOutflow_along looked).seq fun past id inserted => ?_
  refine (access_along (.disbursementStatus disbursement.id .processing) (fun _ _ => trivial)
    (fun _ => Access.noConfusion) inserted).seq fun past _ inserted => ?_
  cases forRoute : DisbursementRouter.forRoute disbursement.row.currency
    disbursement.row.disbursementRail with
  | error e => trivial
  | ok provider =>
    refine (initiate_along inserted).catching fun past e => along_of_complies ?_
    exact (access_complies (.outflowStatus id .failed) trivial).bind fun _ => markOnHoldAndMaybeAlert_complies

/-- The attempts that `findById` includes are those of the disbursement. -/
theorem activeCount_of_loaded {w : World} {disbursement : Loaded}
    (found : findById disbursementId w = some disbursement)
    (none : (disbursement.outflows.any fun outflow => outflow.2.status.inFlight) = false) :
    activeCount disbursementId w = 0 := by
  obtain ⟨row, -, rfl⟩ := Option.map_eq_some_iff.mp found
  refine List.countP_eq_zero.mpr fun outflow member is => ?_
  simp only [active, Bool.and_eq_true, decide_eq_true_eq] at is
  obtain ⟨id, here⟩ := List.mem_iff_getElem?.mp member
  have inside : (id, outflow) ∈ outflowsOf disbursementId w :=
    mem_findRows.mpr ⟨here, by simp [is.1]⟩
  have := List.any_eq_false.mp none (id, outflow) inside
  exact this is.2

theorem dispatch_along {tid : Nat} :
    (dispatch tid disbursementId).Along Prepared (fun _ _ => True) past := by
  refine query_along.seq fun past loaded read => ?_
  obtain ⟨earlier, read, rfl, still, found⟩ := read
  have found := Except.ok.inj found
  cases loaded with
  | none => trivial
  | some disbursement =>
    dsimp only
    split
    · trivial
    split
    · trivial
    rename_i none
    have same : disbursement.id = disbursementId := by
      obtain ⟨row, -, rfl⟩ := Option.map_eq_some_iff.mp found
      rfl
    refine executeDispatch_along ⟨earlier, read, rfl, still, .inr ?_⟩
    exact same ▸ activeCount_of_loaded found (by simpa using none)

theorem retryDispatch_along {tid : Nat} :
    (retryDispatch tid disbursementId).Along Prepared (fun _ _ => True) past := by
  refine query_along.seq fun past loaded read => ?_
  obtain ⟨earlier, read, rfl, still, found⟩ := read
  have found := Except.ok.inj found
  cases loaded with
  | none => trivial
  | some disbursement =>
    dsimp only
    split
    · trivial
    rename_i held
    obtain ⟨row, present, rfl⟩ := Option.map_eq_some_iff.mp found
    refine executeDispatch_along ⟨earlier, read, rfl, still, .inl ?_⟩
    simpa [onHold, present] using held

end Paying

theorem procedure_along (tid : Nat) (op : Operation) :
    (procedure tid op).Along Prepared (fun _ _ => True) [] := by
  cases op with
  | dispatch disbursementId => exact dispatch_along
  | retryDispatch disbursementId => exact retryDispatch_along
  | retry disbursementId =>
    refine (along_of_complies (access_complies .read trivial)).seq fun _ _ _ => ?_
    exact (along_of_complies (access_complies .audit trivial)).seq fun _ _ _ => retryDispatch_along
  | cancel disbursementId opsUserId reason => exact along_of_complies cancel_complies
  | abandonAttempt disbursementId reason => exact along_of_complies abandonAttempt_complies
  | payoutWebhook parsed =>
    exact (along_of_complies handle_complies).seq fun _ _ _ => trivial
  | runReconcilerCycle => exact along_of_complies runReconcilerCycle_complies
  | settleTransfer reference completes =>
    exact along_of_complies (access_complies (.settleTransfer reference) trivial)

end Bitmonie.AttemptHistory
