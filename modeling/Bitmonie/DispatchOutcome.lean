import Bitmonie.PayoutRecords

/-! How a dispatch ends when the provider accepted its transfer. The provider call and the
write that records it share one `try`, whose `catch` marks the attempt FAILED. -/
namespace Bitmonie.DispatchOutcome
open DisbursementsService DisbursementProvider OutflowsService OpsDisbursementsService

abbrev Ended := Finished World Answer Access AppError

/-- `initiateTransfer` returned acceptance. -/
def Accepted (reference : OutflowReference) (trace : List (Event World Answer Access)) : Prop :=
  ∃ e ∈ trace, e.label = .initiateTransfer reference ∧ e.answer.fails = false ∧
    e.answer.lost = false

instance (reference : OutflowReference) (trace : List (Event World Answer Access)) :
    Decidable (Accepted reference trace) :=
  inferInstanceAs (Decidable (∃ e ∈ trace, _))

/-- The update to PROCESSING returned. -/
def Recorded (outflowId : Nat) (trace : List (Event World Answer Access)) : Prop :=
  ∀ e ∈ trace, e.label = .outflowStatus outflowId .processing → e.answer.fails = false ∧
    e.answer.lost = false

/-- The update of the `catch` changed nothing. -/
def CatchFailed (outflowId : Nat) (trace : List (Event World Answer Access)) : Prop :=
  ∃ e ∈ trace, e.label = .outflowStatus outflowId .failed ∧ e.answer.fails = true

instance (outflowId : Nat) (trace : List (Event World Answer Access)) :
    Decidable (Recorded outflowId trace) :=
  inferInstanceAs (Decidable (∀ e ∈ trace, _))

/-- The attempt is not FAILED, and while its transfer is unknown no retry sends another. -/
structure Kept (outflowId disbursementId : Nat) (reference : OutflowReference) (w : World) :
    Prop where
  outflow : ∃ outflow, w.outflows[outflowId]? = some outflow ∧ outflow.status ≠ .failed
  retry : w.transfers reference = .accepted → ∀ tid answers (f : Ended Unit),
    (retry tid disbursementId).exec answers w = some f →
      ∀ e ∈ f.trace, ∀ other, e.label ≠ .initiateTransfer other

/-- Nothing moves between two accesses; each is `permitted` and keeps `inv`. -/
def alone (inv : World → Prop) (permitted : Access → Prop) : Contract World Answer Access where
  inv := inv
  allowed _ _ _ := True
  rely s t := s = t
  guar label _ _ _ := permitted label

abbrev Alone (inv : World → Prop) (permitted : Access → Prop) (p : Action α) (w : World) : Prop :=
  p.Meets (alone inv permitted) (fun _ _ => True) (fun _ _ => True) w

section Alone
variable {inv : World → Prop} {permitted : Access → Prop} {w : World}

theorem Alone.exec {p : Action α} {answers : List Answer} {f : Ended α}
    (meets : Alone inv permitted p w) (here : inv w) (done : p.exec answers w = some f) :
    inv f.state ∧ ∀ e ∈ f.trace, permitted e.label := by
  obtain ⟨last, events, _⟩ :=
    Proc.Meets.exec (c := alone inv permitted) (fun _ => rfl) meets here done fun _ _ => trivial
  exact ⟨last, fun e member => (events e member).2⟩

theorem Alone.query {p : Answer → World → Except AppError α} {post : α → World → Prop}
    (reads : permitted .read) (read : ∀ i a, p i w = .ok a → post a w) :
    (query p).Meets (alone inv permitted) post (fun _ _ => True) w := by
  apply query_meets
  rintro t rfl _ i _
  exact ⟨reads, trivial, fun _ _ => trivial, fun a => read i a⟩

theorem Alone.commit {label : Access} {write : Answer → World → Except AppError (α × World)}
    (writes : permitted label) (keeps : ∀ i a t, inv w → write i w = .ok (a, t) → inv t) :
    Alone inv permitted (commit label (fun _ => true) write) w := by
  apply commit_meets
  rintro t rfl here _ i _
  exact ⟨writes, fun _ => trivial, fun _ _ => trivial, fun a t' _ done =>
    ⟨keeps i a t' here done, writes, fun _ => trivial, fun _ => trivial⟩⟩

/-- The hold touches the disbursement and nothing else of what `inv` may speak about. -/
theorem markOnHoldAndMaybeAlert_alone {disbursementId : Nat} {failureReason : String}
    (apart : ∀ w rows claims, inv w → inv { w with disbursements := rows, settling := claims })
    (reads : permitted .read) (holds : permitted (.disbursementStatus disbursementId .onHold))
    (alerts : permitted (.onHoldAlerted disbursementId)) :
    Alone inv permitted (markOnHoldAndMaybeAlert disbursementId failureReason) w := by
  rw [Alone, markOnHoldAndMaybeAlert, Proc.meets_bind, markOnHold, Proc.meets_bind]
  have closes : Alone inv permitted (updateUnlessOnHold disbursementId failureReason) w := by
    apply PayoutRules.closing_keeps
    rintro t rfl here i
    refine ⟨⟨apart w w.disbursements _ here, holds⟩, fun a t' done => ⟨?_, holds⟩⟩
    obtain rfl : _ = t' := congrArg Prod.snd (Except.ok.inj done)
    rcases holdRow_marked disbursementId failureReason i.now w with same | ⟨_, _, _, _, held⟩
    · rw [same]
      exact apart w w.disbursements _ here
    · rw [held]
      exact apart w _ _ here
  apply closes.imp _ fun _ _ h => h
  intro first t _
  cases first with
  | false =>
    simp only [Bool.false_eq_true, if_false, Proc.meets_bind]
    exact Alone.query reads fun _ _ _ => trivial
  | true =>
    simp only [if_true, Proc.meets_pure, Proc.meets_bind]
    apply Alone.query reads
    intro _ fresh _
    cases fresh with
    | none => trivial
    | some _ =>
      apply Alone.commit alerts
      intro i a t' here done
      obtain ⟨t'', updated, -, rfl⟩ := map_pair_ok.mp done
      obtain ⟨row, _, rfl⟩ := updateDisbursement_ok.mp updated
      exact apart t _ t.settling here

end Alone

def NoTransfer (label : Access) : Prop := ∀ reference, label ≠ .initiateTransfer reference

theorem initiationFailed_sends_nothing {tid outflowId disbursementId : Nat} {e : AppError}
    {w : World} :
    Alone (fun _ => True) NoTransfer (initiationFailed tid outflowId disbursementId e) w := by
  rw [Alone, initiationFailed, Proc.meets_bind]
  have writes : Alone (fun _ => True) NoTransfer
      (markOutflowFailed tid outflowId disbursementId e.message none) w :=
    Alone.commit (fun _ => Access.noConfusion) fun _ _ _ _ _ => trivial
  apply writes.imp _ fun _ _ h => h
  exact fun _ t _ => markOnHoldAndMaybeAlert_alone (fun _ _ _ _ => trivial)
    (fun _ => Access.noConfusion) (fun _ => Access.noConfusion) fun _ => Access.noConfusion

/-- A retry of a disbursement that is not on hold is refused. -/
theorem retry_sends_nothing {tid disbursementId : Nat} {w : World} {rows : List Disbursement}
    {row : Disbursement} (found : rows[disbursementId]? = some row) (free : row.status ≠ .onHold) :
    Alone (fun w => w.disbursements = rows) NoTransfer (retry tid disbursementId) w := by
  rw [Alone, retry, Proc.meets_bind]
  apply Alone.query fun _ => Access.noConfusion
  intro _ _ _
  rw [Proc.meets_bind]
  have audits : Alone (fun w => w.disbursements = rows) NoTransfer auditWrite w := by
    apply Alone.commit fun _ => Access.noConfusion
    intro _ _ t here done
    obtain ⟨_, rfl⟩ := Prod.mk.inj (Except.ok.inj done)
    exact here
  apply audits.imp _ fun _ _ h => h
  intro _ t _
  rw [retryDispatch, Proc.meets_bind]
  apply query_meets
  rintro u rfl here i _
  refine ⟨fun _ => Access.noConfusion, trivial, fun _ _ => trivial, fun loaded read => ?_⟩
  obtain rfl := Except.ok.inj read
  change t.disbursements = rows at here
  simp [findById, here, found, free]

def Failed (outflowId : Nat) (w : World) : Prop :=
  ∃ outflow, w.outflows[outflowId]? = some outflow ∧ outflow.status = .failed

/-- A disbursement in PROCESSING is out of reach for a retry. -/
theorem kept_of_processing {outflowId disbursementId : Nat} {reference : OutflowReference}
    {w : World} {outflow : Outflow} {row : Disbursement}
    (outflows : w.outflows[outflowId]? = some outflow) (unfailed : outflow.status ≠ .failed)
    (found : w.disbursements[disbursementId]? = some row) (processing : row.status = .processing) :
    Kept outflowId disbursementId reference w where
  outflow := ⟨outflow, outflows, unfailed⟩
  retry _ _ _ _ ran := by
    have free : row.status ≠ .onHold := by simp [processing]
    exact ((retry_sends_nothing found free).exec rfl ran).2

theorem Failed.not_kept {outflowId disbursementId : Nat} {reference : OutflowReference}
    {w : World} (failed : Failed outflowId w) : ¬ Kept outflowId disbursementId reference w := by
  rintro ⟨⟨other, present, unfailed⟩, _⟩
  obtain ⟨outflow, found, status⟩ := failed
  obtain rfl := Option.some.inj (found.symm.trans present)
  exact unfailed status

structure Sent (outflowId disbursementId : Nat) (w : World) : Prop where
  outflow : ∃ outflow, w.outflows[outflowId]? = some outflow ∧ outflow.status ≠ .failed
  disbursement : ∃ row, w.disbursements[disbursementId]? = some row ∧ row.status = .processing

def recording (tid outflowId disbursementId : Nat) (providerTxId : String) : Action Unit :=
  (markInitiated outflowId providerTxId).catching (initiationFailed tid outflowId disbursementId)

/-- Another access before the transfer does not accept it. -/
theorem accepted_after {reference : OutflowReference} {event : Event World Answer Access}
    {f : Ended α} (accepted : Accepted reference (f.after event).trace) :
    (event.label = .initiateTransfer reference ∧ event.answer.fails = false ∧
      event.answer.lost = false) ∨ Accepted reference f.trace := by
  obtain ⟨e, member, sent⟩ := accepted
  rcases List.mem_cons.mp member with rfl | member
  · exact .inl sent
  · exact .inr ⟨e, member, sent⟩

theorem initiate_accepted {tid outflowId : Nat} {disbursement : Loaded}
    {reference : OutflowReference} {answers : List Answer} {w : World} {f : Ended Unit}
    (done : ((initiate disbursement reference outflowId).catching
      (initiationFailed tid outflowId disbursement.id)).exec answers w = some f)
    (accepted : Accepted reference f.trace) :
    ∃ event providerTxId rest t tail, event.label = .initiateTransfer reference ∧
      t.outflows = w.outflows ∧ t.disbursements = w.disbursements ∧
      (recording tid outflowId disbursement.id providerTxId).exec rest t = some tail ∧
      f = tail.after event := by
  have refused {e : AppError} {rest : List Answer} {t : World} {tail : Ended Unit}
      (caught : (initiationFailed tid outflowId disbursement.id e).exec rest t = some tail) :
      ¬ Accepted reference tail.trace := fun ⟨event, member, sent, _⟩ =>
    (initiationFailed_sends_nothing.exec trivial caught).2 event member reference sent
  unfold initiate at done
  split at done
  · exact absurd accepted (refused done)
  · rw [initiateTransfer] at done
    obtain ⟨i, rest, rfl, ⟨providerTxId, tail, _, ran, rfl⟩ | ⟨e, tail, ended, caught, rfl⟩⟩ :=
      Proc.exec_access_catching done
    · refine ⟨_, providerTxId, rest, _, tail, rfl, ?_, ?_, ran, rfl⟩
      all_goals
        split
        · rfl
        · dsimp only
          split <;> rfl
    · exfalso
      rcases accepted_after accepted with ⟨_, succeeds, kept⟩ | later
      · simp only at succeeds kept
        simp [succeeds, kept] at ended
      · exact refused caught later

/-- A write before an accepted transfer went through. -/
theorem committed_accepted {label : Access} {enabled : World → Bool}
    {write : Answer → World → Except AppError (α × World)} {next : α → Action β}
    {reference : OutflowReference} {answers : List Answer} {w : World} {f : Ended β}
    (other : label ≠ .initiateTransfer reference)
    (done : ((commit label enabled write).bind next).exec answers w = some f)
    (accepted : Accepted reference f.trace) :
    ∃ event a rest t tail, event.label = label ∧ write event.answer w = .ok (a, t) ∧
      (next a).exec rest t = some tail ∧ f = tail.after event ∧ Accepted reference tail.trace := by
  obtain ⟨i, rest, _, ⟨a, tail, wrote, ran, rfl⟩ | ⟨e, _, rfl⟩⟩ := Proc.exec_access_bind done
  · exact ⟨_, a, rest, _, tail, rfl, (committed_ok wrote).2.2, ran, rfl,
      (accepted_after accepted).resolve_left fun sent => other sent.1⟩
  · obtain ⟨e, member, sent, _⟩ := accepted
    obtain rfl := List.mem_singleton.mp member
    exact absurd sent other

/-- An accepted transfer leaves its outflow to be recorded; what came before is neither
the record nor the `catch`. -/
theorem executeDispatch_accepted {tid attemptNumber : Nat} {disbursement : Loaded}
    {answers : List Answer} {w : World} {f : Ended Unit}
    (done : (executeDispatch tid disbursement attemptNumber).exec answers w = some f)
    (accepted : Accepted ⟨attemptNumber, disbursement.id⟩ f.trace) :
    ∃ earlier providerTxId rest t tail, Sent w.outflows.length disbursement.id t ∧
      (∀ e ∈ earlier, ∀ outflowId toStatus, e.label ≠ .outflowStatus outflowId toStatus) ∧
      (recording tid w.outflows.length disbursement.id providerTxId).exec rest t = some tail ∧
      f.state = tail.state ∧ f.trace = earlier ++ tail.trace := by
  obtain ⟨first, outflowId, _, u, created, creates, wrote, ran, rfl, later⟩ :=
    committed_accepted Access.noConfusion done accepted
  obtain ⟨-, wrote⟩ := unless_ok.mp wrote
  obtain ⟨-, wrote⟩ := unless_ok.mp wrote
  obtain ⟨rfl, rfl⟩ := Prod.mk.inj (Except.ok.inj wrote)
  obtain ⟨second, _, _, v, marked, marks, wrote, tries, rfl, last⟩ :=
    committed_accepted Access.noConfusion ran later
  obtain ⟨_, updated, -, rfl⟩ := map_pair_ok.mp wrote
  obtain ⟨row, found, rfl⟩ := updateDisbursement_ok.mp updated
  cases routed : DisbursementRouter.forRoute disbursement.row.currency
      disbursement.row.disbursementRail with
  | error e =>
    rw [routed] at tries
    obtain rfl := Option.some.inj tries
    obtain ⟨_, member, _⟩ := last
    cases member
  | ok provider =>
    rw [routed, Proc.ofExcept, Proc.pure_bind] at tries
    obtain ⟨third, providerTxId, rest, t, tail, sends, outflows, rows, records, rfl⟩ :=
      initiate_accepted tries last
    refine ⟨[first, second, third], providerTxId, rest, t, tail, ⟨?_, ?_⟩, ?_, records, rfl, rfl⟩
    · exact ⟨_, by rw [outflows, List.getElem?_concat_length], by simp⟩
    · exact ⟨_, by rw [rows, getElem?_set_of_eq found], rfl⟩
    · intro e member outflowId toStatus
      simp only [List.mem_cons, List.not_mem_nil, or_false] at member
      rcases member with rfl | rfl | rfl
      · exact creates ▸ Access.noConfusion
      · exact marks ▸ Access.noConfusion
      · exact sends ▸ Access.noConfusion

theorem Sent.kept {outflowId disbursementId : Nat} {reference : OutflowReference} {w : World}
    (sent : Sent outflowId disbursementId w) : Kept outflowId disbursementId reference w := by
  obtain ⟨outflow, found, unfailed⟩ := sent.outflow
  obtain ⟨row, present, processing⟩ := sent.disbursement
  exact kept_of_processing found unfailed present processing

/-- The write of an outflow with `data`, which may claim a settlement besides. -/
def outflowWrite (outflowId : Nat) (data : Answer → Outflow → Outflow)
    (claim : Answer → World → World) (i : Answer) (w : World) : Except AppError (Unit × World) :=
  (updateOutflow outflowId (data i) w).map fun w' => ((), claim i w')

section Write
variable {outflowId : Nat} {data : Answer → Outflow → Outflow} {claim : Answer → World → World}
  {i : Answer} {w : World} {outflow : Outflow}

theorem outflowWrite_ok (found : w.outflows[outflowId]? = some outflow) :
    outflowWrite outflowId data claim i w =
      .ok ((), claim i { w with outflows := w.outflows.set outflowId (data i outflow) }) :=
  map_ok.mpr ⟨_, updateOutflow_ok.mpr ⟨outflow, found, rfl⟩, rfl⟩

/-- An update of a row that is there returns, or fails, or is lost. -/
theorem outflowWrite_ended (found : w.outflows[outflowId]? = some outflow) :
    let ended := committed (outflowWrite outflowId data claim) i w
    let written := claim i { w with outflows := w.outflows.set outflowId (data i outflow) }
    (ended.1 = .ok () ∧ i.fails = false ∧ i.lost = false ∧ ended.2 = written) ∨
      (∃ e, ended.1 = .error e ∧ i.fails = true ∧ ended.2 = w) ∨
      ∃ e, ended.1 = .error e ∧ i.fails = false ∧ i.lost = true ∧ ended.2 = written := by
  have wrote : outflowWrite outflowId data claim i w = _ := outflowWrite_ok found
  unfold committed
  cases fails : i.fails <;> cases lost : i.lost <;> simp [wrote]

end Write

theorem settling_outflows (tid disbursementId : Nat) (i : Answer) (w : World) :
    (settling tid disbursementId i w).outflows = w.outflows := by
  unfold settling
  split <;> rfl

/-- The hold keeps a FAILED outflow and updates none. -/
theorem hold_keeps_failed {outflowId disbursementId : Nat} {failureReason : String} {w : World} :
    Alone (Failed outflowId) (fun label => ∀ id toStatus, label ≠ .outflowStatus id toStatus)
      (markOnHoldAndMaybeAlert disbursementId failureReason) w :=
  markOnHoldAndMaybeAlert_alone (fun _ _ _ failed => failed) (fun _ _ => Access.noConfusion)
    (fun _ _ => Access.noConfusion) fun _ _ => Access.noConfusion

/-- The `catch`, entered with the transfer accepted. -/
theorem initiationFailed_kept {tid outflowId disbursementId : Nat} {reference : OutflowReference}
    {e : AppError} {answers : List Answer} {w : World} {f : Ended Unit}
    (sent : Sent outflowId disbursementId w)
    (ran : (initiationFailed tid outflowId disbursementId e).exec answers w = some f) :
    Kept outflowId disbursementId reference f.state ↔ CatchFailed outflowId f.trace := by
  obtain ⟨outflow, found, _⟩ := sent.outflow
  let data (outflow : Outflow) : Outflow := { outflow with
    status := .failed, failureReason := some e.message
    failureCode := (none : Option String).orElse fun _ => outflow.failureCode }
  have failed (i : Answer) : Failed outflowId (settling tid disbursementId i
      { w with outflows := w.outflows.set outflowId (data outflow) }) :=
    ⟨data outflow, by rw [settling_outflows]; exact getElem?_set_of_eq found, rfl⟩
  change ((Proc.access _ _ (committed (outflowWrite outflowId (fun _ => data)
    (settling tid disbursementId)))).bind _).exec answers w = some f at ran
  obtain ⟨i, rest, _, split⟩ := Proc.exec_access_bind ran
  rcases outflowWrite_ended found with ⟨went, succeeds, _, state⟩ | ⟨e', threw, fails, state⟩ |
    ⟨e', threw, succeeds, _, state⟩
  · -- The update went through: FAILED stays, whatever becomes of the hold.
    rw [went, state] at split
    obtain ⟨_, tail, _, holds, rfl⟩ | ⟨_, wrong, _⟩ := split
    swap
    · cases wrong
    obtain ⟨kept, others⟩ := hold_keeps_failed.exec (failed i) holds
    refine ⟨fun rows => absurd rows kept.not_kept, ?_⟩
    rintro ⟨event, member, labelled, fails⟩
    rcases List.mem_cons.mp member with rfl | member
    · simp [succeeds] at fails
    · exact absurd labelled (others event member outflowId .failed)
  · rw [threw, state] at split
    obtain ⟨_, _, wrong, _⟩ | ⟨_, _, rfl⟩ := split
    · cases wrong
    · exact ⟨fun _ => ⟨_, List.mem_singleton_self _, rfl, fails⟩, fun _ => sent.kept⟩
  · rw [threw, state] at split
    obtain ⟨_, _, wrong, _⟩ | ⟨_, _, rfl⟩ := split
    · cases wrong
    refine ⟨fun rows => absurd rows (failed i).not_kept, ?_⟩
    rintro ⟨event, member, _, fails⟩
    obtain rfl := List.mem_singleton.mp member
    simp [succeeds] at fails

theorem recording_kept {tid outflowId disbursementId : Nat} {reference : OutflowReference}
    {providerTxId : String} {answers : List Answer} {w : World} {f : Ended Unit}
    (sent : Sent outflowId disbursementId w)
    (ran : (recording tid outflowId disbursementId providerTxId).exec answers w = some f) :
    Kept outflowId disbursementId reference f.state ↔
      Recorded outflowId f.trace ∨ CatchFailed outflowId f.trace := by
  obtain ⟨outflow, found, _⟩ := sent.outflow
  let data (i : Answer) (outflow : Outflow) : Outflow := { outflow with
    providerTxId := some providerTxId, status := .processing, initiatedAt := some i.now }
  have recorded (i : Answer) : Sent outflowId disbursementId
      { w with outflows := w.outflows.set outflowId (data i outflow) } :=
    ⟨⟨data i outflow, getElem?_set_of_eq found, by simp [data]⟩, sent.disbursement⟩
  rw [recording, ← Proc.bind_pure (markInitiated _ _)] at ran
  change (((Proc.access _ _ (committed (outflowWrite outflowId data fun _ w => w))).bind _).catching
    _).exec answers w = some f at ran
  obtain ⟨i, rest, _, split⟩ := Proc.exec_access_catching ran
  -- An update that threw was not recorded, and enters the `catch`.
  have caught {t : World} {e : AppError} {tail : Ended Unit} (here : Sent outflowId disbursementId t)
      (unsure : ¬ (i.fails = false ∧ i.lost = false))
      (handled : (initiationFailed tid outflowId disbursementId e).exec rest t = some tail) :
      Kept outflowId disbursementId reference tail.state ↔
        Recorded outflowId (tail.after ⟨.outflowStatus outflowId .processing, i, w, t⟩).trace ∨
          CatchFailed outflowId (tail.after ⟨.outflowStatus outflowId .processing, i, w, t⟩).trace := by
    rw [initiationFailed_kept here handled]
    constructor
    · rintro ⟨event, member, failing⟩
      exact .inr ⟨event, List.mem_cons_of_mem _ member, failing⟩
    · rintro (recorded | ⟨event, member, labelled, fails⟩)
      · exact absurd (recorded _ (List.mem_cons_self ..) rfl) unsure
      · rcases List.mem_cons.mp member with rfl | member
        · cases labelled
        · exact ⟨event, member, labelled, fails⟩
  rcases outflowWrite_ended found with ⟨went, succeeds, known, state⟩ | ⟨e, threw, fails, state⟩ |
    ⟨e, threw, _, lost, state⟩
  · rw [went, state] at split
    obtain ⟨_, tail, _, returns, rfl⟩ | ⟨_, _, wrong, _⟩ := split
    swap
    · cases wrong
    obtain rfl := Option.some.inj returns
    refine ⟨fun _ => .inl fun event member _ => ?_, fun _ => (recorded i).kept⟩
    obtain rfl := List.mem_singleton.mp member
    exact ⟨succeeds, known⟩
  · rw [threw, state] at split
    obtain ⟨_, _, wrong, _⟩ | ⟨_, tail, same, handled, rfl⟩ := split
    · cases wrong
    · exact caught sent (by simp [fails]) handled
  · rw [threw, state] at split
    obtain ⟨_, _, wrong, _⟩ | ⟨_, tail, same, handled, rfl⟩ := split
    · cases wrong
    · exact caught (recorded i) (by simp [lost]) handled

/-- A dispatch whose transfer was accepted keeps it, if and only if the update that records
it returns, or the update of the `catch` fails as well. -/
theorem dispatch_keeps_accepted {tid attemptNumber : Nat} {disbursement : Loaded}
    {answers : List Answer} {w : World} {f : Ended Unit}
    (done : (executeDispatch tid disbursement attemptNumber).exec answers w = some f)
    (accepted : Accepted ⟨attemptNumber, disbursement.id⟩ f.trace) :
    Kept w.outflows.length disbursement.id ⟨attemptNumber, disbursement.id⟩ f.state ↔
      Recorded w.outflows.length f.trace ∨ CatchFailed w.outflows.length f.trace := by
  obtain ⟨earlier, providerTxId, rest, t, tail, sent, others, ran, state, trace⟩ :=
    executeDispatch_accepted done accepted
  rw [state, recording_kept sent ran, trace]
  constructor
  · rintro (recorded | ⟨event, member, failing⟩)
    · refine .inl fun event member labelled => ?_
      rcases List.mem_append.mp member with early | member
      · exact absurd labelled (others event early _ _)
      · exact recorded event member labelled
    · exact .inr ⟨event, List.mem_append_right _ member, failing⟩
  · rintro (recorded | ⟨event, member, labelled, fails⟩)
    · exact .inl fun event member => recorded event (List.mem_append_right _ member)
    · rcases List.mem_append.mp member with early | member
      · exact absurd labelled (others event early _ _)
      · exact .inr ⟨event, member, labelled, fails⟩

open PayoutRecords

def loaded : Loaded := ⟨0, newDisbursement, []⟩

theorem dispatch_keeps_accepted_recorded : ∃ f : Ended Unit,
    (executeDispatch 0 loaded 1).exec (List.replicate 4 {}) oneDisbursement = some f ∧
    Accepted ⟨1, 0⟩ f.trace ∧ Kept 0 0 ⟨1, 0⟩ f.state := by
  have ran : ((executeDispatch 0 loaded 1).exec (List.replicate 4 {}) oneDisbursement).any fun f =>
      decide (Accepted ⟨1, 0⟩ f.trace ∧ Recorded 0 f.trace) := by decide +kernel
  obtain ⟨f, done, checked⟩ := (Option.any_eq_true _ _).mp ran
  obtain ⟨accepted, recorded⟩ := of_decide_eq_true checked
  exact ⟨f, done, accepted, (dispatch_keeps_accepted done accepted).mpr (.inl recorded)⟩

def unrecorded : List Answer := [{}, {}, {}, { fails := true }, {}, {}, {}, {}]

/-- The provider accepts, the attempt is FAILED, and a retry has a second one accepted. -/
theorem accepted_transfer_failed : ∃ f g : Ended Unit,
    (executeDispatch 0 loaded 1).exec unrecorded oneDisbursement = some f ∧
    Accepted ⟨1, 0⟩ f.trace ∧ ¬ Kept 0 0 ⟨1, 0⟩ f.state ∧ f.state.transfers ⟨1, 0⟩ = .accepted ∧
    (retry 1 0).exec (List.replicate 7 {}) f.state = some g ∧ Accepted ⟨2, 0⟩ g.trace := by
  have ran : ((executeDispatch 0 loaded 1).exec unrecorded oneDisbursement).any fun f => decide (
      Accepted ⟨1, 0⟩ f.trace ∧ (f.state.outflows[0]?.any fun outflow => outflow.status = .failed) ∧
      f.state.transfers ⟨1, 0⟩ = .accepted ∧
      ((retry 1 0).exec (List.replicate 7 {}) f.state).any fun g =>
        decide (Accepted ⟨2, 0⟩ g.trace)) := by decide +kernel
  obtain ⟨f, done, checked⟩ := (Option.any_eq_true _ _).mp ran
  obtain ⟨accepted, failed, unknown, again⟩ := of_decide_eq_true checked
  obtain ⟨g, retried, second⟩ := (Option.any_eq_true _ _).mp again
  obtain ⟨outflow, found, status⟩ := (Option.any_eq_true _ _).mp failed
  exact ⟨f, g, done, accepted, Failed.not_kept ⟨outflow, found, of_decide_eq_true status⟩, unknown,
    retried, of_decide_eq_true second⟩

end Bitmonie.DispatchOutcome
