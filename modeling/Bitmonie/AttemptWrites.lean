import Bitmonie.PayoutRecords

/-! What each access of a payout does to the outflows, in any run. -/
namespace Bitmonie.AttemptWrites
open DisbursementsService DisbursementProvider OutflowsService OpsDisbursementsService PayoutRules
  PayoutRecords

/-- The row after a write of `status`. -/
structure Written (status : OutflowStatus) (now : Time) (before after : Outflow) : Prop where
  lands : after.status = status
  owner : after.disbursementId = before.disbursementId
  reference : after.providerReference = before.providerReference
  initiated : status = .processing → after.initiatedAt = some now

/-- An insert adds one PENDING row or none, an update sets a status that is not PENDING, and no
other access touches an outflow. -/
def Effect (label : Access) (i : Answer) (s t : World) : Prop :=
  match label with
  | .createOutflow disbursementId => t.outflows = s.outflows ∨ ∃ created : Outflow,
      created.disbursementId = disbursementId ∧ created.status = .pending ∧
        t.outflows = s.outflows ++ [created]
  | .outflowStatus id status => status ≠ .pending ∧
      if i.fails then t.outflows = s.outflows
      else ∃ before after, s.outflows[id]? = some before ∧ Written status i.now before after ∧
        t.outflows = s.outflows.set id after
  | _ => t.outflows = s.outflows

/-- Every access has its effect, whatever it is answered. -/
def effects : Discipline World Answer Access where
  inv _ := True
  allowed _ _ _ := True
  fresh _ _ := True
  rely _ s t := Persists s t
  guar _ label i s t := Effect label i s t ∧ Persists s t

theorem effects_sound : effects.Sound where
  refl _ w := Persists.refl w
  trans _ _ _ _ := Persists.trans
  compatible _ _ _ _ _ _ _ _ guar := guar.2
  fresh _ _ _ _ _ := trivial

abbrev contract (tid : Nat) : Contract World Answer Access := effects.contract tid

def Elsewhere (label : Access) : Prop :=
  (∀ disbursementId, label ≠ .createOutflow disbursementId) ∧
    ∀ id status, label ≠ .outflowStatus id status

theorem effect_of_eq {label : Access} {i : Answer} {s t : World} (elsewhere : Elsewhere label)
    (same : t.outflows = s.outflows) : Effect label i s t := by
  unfold Effect
  split
  · exact absurd rfl (elsewhere.1 _)
  · exact absurd rfl (elsewhere.2 _ _)
  · exact same

section Accesses
variable {tid : Nat} {w : World}

theorem disbursementWrite_keeps {id : Nat} {label : Access} (elsewhere : Elsewhere label)
    {data : Answer → Disbursement → Disbursement} :
    Keeps (contract tid) (fun _ _ => True) (commit label (fun _ => true) fun i w =>
      (updateDisbursement id (data i) w).map ((), ·)) w := by
  apply commit_meets
  intro t _ _ _ i _
  refine ⟨⟨effect_of_eq elsewhere rfl, .refl t⟩, fun _ => trivial, fun _ _ => trivial,
    fun _ t' _ done => ?_⟩
  obtain ⟨t'', updated, -, rfl⟩ := map_pair_ok.mp done
  obtain ⟨row, _, rfl⟩ := updateDisbursement_ok.mp updated
  exact ⟨trivial, ⟨effect_of_eq elsewhere rfl, .of_eq rfl rfl⟩, fun _ => trivial, fun _ => trivial⟩

theorem settlement_keeps {id : Nat} {label : Access} (elsewhere : Elsewhere label)
    {f : Answer → World → Except AppError (α × World)}
    (writes : ∀ i t a t', f i t = .ok (a, t') → Marked id t t') :
    Keeps (contract tid) (fun _ _ => True) (closing id label f) w := by
  apply closing_keeps
  intro t _ _ i ended
  refine ⟨⟨trivial, effect_of_eq elsewhere rfl, .of_eq rfl rfl⟩, fun a t' done => ?_⟩
  rcases writes i t a t' done with rfl | ⟨_, _, _, _, rfl⟩ <;>
    exact ⟨trivial, effect_of_eq elsewhere rfl, .of_eq rfl rfl⟩

/-- An update of an attempt that is there, which may claim a settlement. -/
theorem outflowWrite_keeps {id disbursementId : Nat} {reference : OutflowReference}
    {status : OutflowStatus} (data : Answer → Outflow → Outflow)
    {claim : Answer → World → World} (here : Attempt id disbursementId reference w)
    (known : status ≠ .pending) (writes : ∀ i before, Written status i.now before (data i before))
    (claims : ∀ i t, ∃ settling, claim i t = { t with settling := settling }) :
    Keeps (contract tid) (fun _ _ => True) (commit (.outflowStatus id status) (fun _ => true)
      fun i w => (updateOutflow id (data i) w).map fun w' => ((), claim i w')) w := by
  rw [Keeps, commit, Proc.meets_access]
  intro t moved _ _ i _
  obtain ⟨before, found, _, _⟩ := here.mono moved
  have wrote : (updateOutflow id (data i) t).map (fun w' => ((), claim i w')) =
      .ok ((), claim i { t with outflows := t.outflows.set id (data i before) }) :=
    map_ok.mpr ⟨_, updateOutflow_ok.mpr ⟨before, found, rfl⟩, rfl⟩
  obtain ⟨settling, same⟩ := claims i { t with outflows := t.outflows.set id (data i before) }
  have written := writes i before
  cases fails : i.fails with
  | true =>
    simp only [committed, fails, if_true]
    exact ⟨trivial, ⟨⟨known, by simp [fails]⟩, .refl t⟩, trivial⟩
  | false =>
    simp only [committed, fails, Bool.false_eq_true, if_false, wrote, same]
    refine ⟨trivial, ⟨⟨known, ?_⟩, .set found written.owner written.reference settling⟩, ?_⟩
    · simp only [fails, Bool.false_eq_true, if_false]
      exact ⟨before, _, found, written, rfl⟩
    · cases i.lost <;> trivial

theorem createOutflow_keeps {attemptNumber : Nat} {disbursement : Loaded} :
    Keeps (contract tid) (fun id => Attempt id disbursement.id ⟨attemptNumber, disbursement.id⟩)
      (createOutflow disbursement attemptNumber) w := by
  apply commit_meets
  intro t _ _ _ i _
  refine ⟨⟨.inl rfl, .refl t⟩, fun _ => trivial, fun _ _ => trivial, fun id t' _ done => ?_⟩
  obtain ⟨-, done⟩ := unless_ok.mp done
  obtain ⟨-, done⟩ := unless_ok.mp done
  obtain ⟨rfl, rfl⟩ := Prod.mk.inj (Except.ok.inj done)
  exact ⟨trivial, ⟨.inr ⟨_, rfl, rfl, rfl⟩, Persists.create t _⟩,
    fun _ => ⟨_, List.getElem?_concat_length, rfl, rfl⟩, fun _ => trivial⟩

theorem initiateTransfer_keeps {reference : OutflowReference} :
    Keeps (contract tid) (fun _ t => t.transfers reference ≠ .absent)
      (initiateTransfer reference) w := by
  rw [Keeps, initiateTransfer, Proc.meets_access]
  intro t _ _ _ i _
  have still : Effect (.initiateTransfer reference) i t t ∧ Persists t t := ⟨rfl, .refl t⟩
  cases i.fails with
  | true => exact ⟨trivial, still, trivial⟩
  | false =>
    simp only [Bool.false_eq_true, if_false]
    by_cases absent : t.transfers reference = .absent
    · simp only [absent, if_true]
      refine ⟨trivial, ⟨rfl, Persists.book t reference (by decide)⟩, ?_⟩
      cases i.lost <;> simp
    · simp only [absent, if_false]
      refine ⟨trivial, still, ?_⟩
      cases i.lost <;> simp [absent]

end Accesses

theorem effects_rules (tid : Nat) :
    Rules tid (contract tid) (fun _ _ => True) (fun _ _ => True) fun _ _ => True where
  rely _ _ moved := moved
  own _ _ _ _ wrote := wrote.2
  still label i w idle := by
    refine ⟨effect_of_eq ?_ rfl, .refl w⟩
    rcases idle with rfl | rfl | rfl <;> exact ⟨fun _ => Access.noConfusion, fun _ _ => Access.noConfusion⟩
  target _ _ _ _ _ := trivial
  createOutflow _ _ _ _ := createOutflow_keeps
  initiateTransfer _ _ _ _ _ := initiateTransfer_keeps
  markInitiated _ _ _ providerTxId _ here _ :=
    outflowWrite_keeps (fun i outflow => { outflow with
      providerTxId := some providerTxId, status := .processing, initiatedAt := some i.now })
      here (by decide) (fun _ _ => ⟨rfl, rfl, rfl, fun _ => rfl⟩) fun _ t => ⟨t.settling, rfl⟩
  markOutflowSuccessful _ disbursementId _ providerTxId _ here _ :=
    outflowWrite_keeps (fun i outflow => { outflow with
      status := .successful, providerTxId := some providerTxId, confirmedAt := some i.now })
      here (by decide) (fun _ _ => ⟨rfl, rfl, rfl, nofun⟩) (settling_claims tid disbursementId)
  markOutflowFailed _ disbursementId _ failureReason failureCode _ here :=
    outflowWrite_keeps (fun _ outflow => { outflow with
      status := .failed, failureReason := some failureReason
      failureCode := failureCode.orElse fun _ => outflow.failureCode })
      here (by decide) (fun _ _ => ⟨rfl, rfl, rfl, nofun⟩) (settling_claims tid disbursementId)
  markSuccessful _ _ _ :=
    settlement_keeps ⟨fun _ => Access.noConfusion, fun _ _ => Access.noConfusion⟩
      fun _ _ _ _ done => updateDisbursement_marked done fun _ => rfl
  updateUnlessOnHold disbursementId failureReason _ _ := by
    refine settlement_keeps ⟨fun _ => Access.noConfusion, fun _ _ => Access.noConfusion⟩
      fun i t a t' done => ?_
    obtain rfl : _ = t' := congrArg Prod.snd (Except.ok.inj done)
    exact holdRow_marked disbursementId failureReason i.now t
  markOnHoldAlerted _ _ :=
    disbursementWrite_keeps ⟨fun _ => Access.noConfusion, fun _ _ => Access.noConfusion⟩
  markProcessing _ _ :=
    disbursementWrite_keeps ⟨fun _ => Access.noConfusion, fun _ _ => Access.noConfusion⟩
  markCancelled _ _ _ _ :=
    disbursementWrite_keeps ⟨fun _ => Access.noConfusion, fun _ _ => Access.noConfusion⟩

theorem settleTransfer_keeps (tid : Nat) (reference : OutflowReference) (completes : Bool) (w : World) :
    Keeps (contract tid) (fun _ _ => True) (settleTransfer reference completes) w := by
  rw [Keeps, settleTransfer, Proc.meets_access]
  intro t _ _ _ i _
  exact ⟨trivial, ⟨rfl, Persists.book t reference (by cases completes <;> decide)⟩, trivial⟩

theorem procedure_keeps (tid : Nat) (op : Operation) (w : World) :
    Keeps (contract tid) (fun _ _ => True) (procedure tid op) w :=
  keeps_of_rules (effects_rules tid) (settleTransfer_keeps tid) op w

/-- Every access of a run has its effect. -/
theorem run_effects {w₀ : World} {trace : List (Nat × Event World Answer Access)}
    {c : Config World Answer Access AppError Unit} (run : Runs procedure w₀ trace c) :
    ∀ e ∈ trace, Effect e.2.label e.2.answer e.2.before e.2.after := by
  have held : effects.Holds (fun _ _ _ => True) (fun _ _ _ => True) trace c :=
    run.holds effects_sound (fun _ _ _ _ _ _ => trivial) (fun _ _ _ _ _ _ => trivial) trivial
      (fun _ => trivial) (fun tid op w _ _ => procedure_keeps tid op w) fun _ _ => trivial
  exact fun e member => (held.events e member).2.2.1

end Bitmonie.AttemptWrites
