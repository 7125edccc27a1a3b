import Bitmonie.AttemptWrites
import Bitmonie.DispatchOutcome

/-! Accepted transfers when the process stops. The row of an attempt is a candidate of the
reconciler from the write that sets `initiated_at` on, which comes after the provider call. -/
namespace Bitmonie.TransferRecovery
open DisbursementsService OutflowsService OutflowReconciler PayoutRules PayoutRecords AttemptWrites

/-- The provider accepted the transfer, whether or not its answer came back. -/
def accepted (reference : OutflowReference) (trace : List (Event World Answer Access)) : Bool :=
  trace.any fun e => decide (e.label = .initiateTransfer reference) && !e.answer.fails

def writes (outflowId : Nat) (e : Event World Answer Access) : Bool :=
  match e.label with
  | .outflowStatus id _ => id = outflowId && !e.answer.fails
  | _ => false

/-- It is terminal, or a candidate once the threshold has passed since every access so far. -/
def Recoverable (outflowId : Nat) (outflow : Outflow) (trace : List (Event World Answer Access))
    (w : World) : Prop :=
  outflow.status.inFlight = false ∨
    ∀ now, (∀ e ∈ trace, e.answer.now + outflowProcessingStaleSec * 1000 < now) →
      (outflowId, outflow) ∈ staleOutflows now w

theorem mem_staleOutflows {now : Time} {w : World} {outflowId : Nat} {outflow : Outflow} :
    (outflowId, outflow) ∈ staleOutflows now w ↔ w.outflows[outflowId]? = some outflow ∧
      outflow.status = .processing ∧
        ∃ initiatedAt, outflow.initiatedAt = some initiatedAt ∧
          initiatedAt < now - outflowProcessingStaleSec * 1000 := by
  unfold staleOutflows
  rw [List.mem_insertionSort, mem_findRows]
  simp [Option.any_eq_true]

theorem exists_later (trace : List (Event World Answer Access)) (span : Time) :
    ∃ now : Time, ∀ e ∈ trace, e.answer.now + span < now := by
  induction trace with
  | nil => exact ⟨0, by simp⟩
  | cons e rest ih =>
    obtain ⟨now, later⟩ := ih
    refine ⟨max now (e.answer.now + span + 1), List.forall_mem_cons.mpr ⟨?_, fun e' member => ?_⟩⟩
    · exact lt_max_of_lt_right (Int.lt_succ _)
    · exact lt_max_of_lt_left (later e' member)

/-- The reconciler does not look at PENDING rows. -/
theorem not_recoverable {outflowId : Nat} {outflow : Outflow} {w : World}
    {trace : List (Event World Answer Access)} (pending : outflow.status = .pending) :
    ¬ Recoverable outflowId outflow trace w := by
  rintro (terminal | candidate)
  · simp [pending, OutflowStatus.inFlight] at terminal
  · obtain ⟨now, later⟩ := exists_later trace (outflowProcessingStaleSec * 1000)
    have processing := (mem_staleOutflows.mp (candidate now later)).2.1
    rw [pending] at processing
    cases processing

/-- The row of the attempt after some accesses: PENDING until it is written. -/
structure Row (outflowId : Nat) (reference : OutflowReference)
    (past : List (Event World Answer Access)) (outflow : Outflow) : Prop where
  reference : outflow.providerReference = reference
  unwritten : past.any (writes outflowId) = false → outflow.status = .pending
  written : past.any (writes outflowId) = true → outflow.status.inFlight = false ∨
    outflow.status = .processing ∧ ∃ e ∈ past, outflow.initiatedAt = some e.answer.now

theorem Row.quiet {outflowId : Nat} {reference : OutflowReference} {outflow : Outflow}
    {past : List (Event World Answer Access)} {e : Event World Answer Access}
    (row : Row outflowId reference past outflow) (quiet : writes outflowId e = false) :
    Row outflowId reference (past ++ [e]) outflow where
  reference := row.reference
  unwritten none := row.unwritten (by simpa [quiet] using none)
  written some := by
    rcases row.written (by simpa [quiet] using some) with terminal | ⟨processing, e', member, at_⟩
    · exact .inl terminal
    · exact .inr ⟨processing, e', List.mem_append_left _ member, at_⟩

def Left (outflowId : Nat) (reference : OutflowReference) (past : List (Event World Answer Access))
    (w : World) : Prop :=
  ∃ outflow, w.outflows[outflowId]? = some outflow ∧ Row outflowId reference past outflow

theorem Left.after {outflowId : Nat} {reference : OutflowReference}
    {past : List (Event World Answer Access)} {e : Event World Answer Access}
    (effect : Effect e.label e.answer e.before e.after)
    (left : Left outflowId reference past e.before) :
    Left outflowId reference (past ++ [e]) e.after := by
  obtain ⟨label, i, s, t⟩ := e
  change Effect label i s t at effect
  obtain ⟨outflow, found, row⟩ := left
  change s.outflows[outflowId]? = some outflow at found
  have untouched (same : t.outflows = s.outflows) (quiet : writes outflowId ⟨label, i, s, t⟩ = false) :
      Left outflowId reference (past ++ [⟨label, i, s, t⟩]) t :=
    ⟨outflow, by rw [same, found], row.quiet quiet⟩
  cases label with
  | createOutflow disbursementId =>
    rcases effect with same | ⟨created, _, _, same⟩
    · exact untouched same rfl
    · exact ⟨outflow, by rw [same, concat_of_row found], row.quiet rfl⟩
  | outflowStatus id status =>
    obtain ⟨known, wrote⟩ := effect
    cases fails : i.fails with
    | true =>
      rw [if_pos fails] at wrote
      exact untouched wrote (by simp [writes, fails])
    | false =>
      rw [if_neg (by simp [fails])] at wrote
      obtain ⟨before, after, present, wrote, same⟩ := wrote
      by_cases here : id = outflowId
      · subst here
        obtain rfl := Option.some.inj (found.symm.trans present)
        refine ⟨after, by rw [same, getElem?_set_of_eq found], wrote.reference.trans row.reference,
          fun none => ?_, fun _ => ?_⟩
        · simp [writes, fails] at none
        · rw [wrote.lands]
          cases status with
          | pending => exact absurd rfl known
          | processing =>
            exact .inr ⟨rfl, ⟨_, i, s, t⟩, List.mem_append_right _ (List.mem_cons_self ..),
              wrote.initiated rfl⟩
          | successful => exact .inl rfl
          | failed => exact .inl rfl
      · exact ⟨outflow, by rw [same, List.getElem?_set_ne here, found],
          row.quiet (by simp [writes, here])⟩
  | _ => exact untouched effect rfl

/-- Wherever a dispatch is stopped after the provider has accepted its transfer, the row that
it leaves is recoverable if and only if an update of the row has taken effect. -/
theorem recoverable_iff (tid : Nat) {disbursement : Loaded} {attemptNumber : Nat} {s t : World}
    {rest : Action Unit} {trace : List (Event World Answer Access)}
    (stopped : (executeDispatch tid disbursement attemptNumber).Reaches s trace rest t)
    (sent : accepted ⟨attemptNumber, disbursement.id⟩ trace = true) :
    ∃ outflow, t.outflows[s.outflows.length]? = some outflow ∧
      outflow.providerReference = ⟨attemptNumber, disbursement.id⟩ ∧
      (Recoverable s.outflows.length outflow trace t ↔
        trace.any (writes s.outflows.length) = true) := by
  have effect : ∀ e ∈ trace, Effect e.label e.answer e.before e.after := fun e member =>
    (((effects_rules tid).executeDispatch disbursement attemptNumber s trivial).reaches_guar
      Persists.refl trivial stopped (fun _ _ => trivial) e member).1
  obtain rfl | ⟨i, tail, rfl, ⟨id, created, after⟩ | ⟨e, _, rfl⟩⟩ := Proc.reaches_access_bind stopped
  · cases sent
  · obtain ⟨_, _, wrote⟩ := committed_ok created
    dsimp only at wrote
    split at wrote
    · cases wrote
    split at wrote
    · cases wrote
    obtain ⟨rfl, same⟩ := Prod.mk.inj (Except.ok.inj wrote)
    rw [← same] at after
    have left : Left s.outflows.length ⟨attemptNumber, disbursement.id⟩ tail t := by
      apply after.holds
      · exact ⟨_, List.getElem?_concat_length, rfl, fun _ => rfl, fun written => by cases written⟩
      · exact fun past e member => Left.after (effect e (List.mem_cons_of_mem _ member))
    obtain ⟨outflow, found, row⟩ := left
    refine ⟨outflow, found, row.reference, ?_⟩
    simp only [List.any_cons, writes, Bool.false_or]
    cases wrote : tail.any (writes s.outflows.length) with
    | false => exact iff_of_false (not_recoverable (row.unwritten wrote)) Bool.noConfusion
    | true =>
      refine iff_of_true ?_ rfl
      rcases row.written wrote with terminal | ⟨processing, e, member, initiated⟩
      · exact .inl terminal
      · refine .inr fun now later => mem_staleOutflows.mpr ⟨found, processing, _, initiated, ?_⟩
        exact lt_sub_iff_add_lt.mpr (later e (List.mem_cons_of_mem _ member))
  · simp [accepted] at sent

def stoppedDispatch (answers : List Answer) : Option (List (Event World Answer Access) × World) :=
  (executeDispatch 0 DispatchOutcome.loaded 1).stopped answers oneDisbursement

/-- Stopped after the write that follows the call. -/
theorem recoverable_when_recorded : ∃ trace rest t outflow,
    (executeDispatch 0 DispatchOutcome.loaded 1).Reaches oneDisbursement trace rest t ∧
    accepted ⟨1, 0⟩ trace = true ∧ t.outflows[0]? = some outflow ∧
    outflow.status = .processing ∧ Recoverable 0 outflow trace t := by
  have ran : (stoppedDispatch (List.replicate 4 {})).any fun r => accepted ⟨1, 0⟩ r.1 &&
      r.1.any (writes 0) && decide (r.2.outflows.map (·.status) = [.processing]) := by
    decide +kernel
  obtain ⟨r, made, checked⟩ := (Option.any_eq_true _ _).mp ran
  simp only [Bool.and_eq_true, decide_eq_true_eq] at checked
  obtain ⟨⟨sent, wrote⟩, rows⟩ := checked
  obtain ⟨rest, stopped⟩ := Proc.stopped_reaches made
  obtain ⟨outflow, found, _, iff⟩ := recoverable_iff 0 stopped sent
  have status : (r.2.outflows.map (·.status))[0]? = some outflow.status := by
    rw [List.getElem?_map, show r.2.outflows[0]? = some outflow from found, Option.map_some]
  rw [rows] at status
  exact ⟨r.1, rest, r.2, outflow, stopped, sent, found, (Option.some.inj status).symm, iff.mpr wrote⟩

/-- Stopped between the call and that write. -/
theorem accepted_unrecoverable : ∃ trace rest t outflow,
    (executeDispatch 0 DispatchOutcome.loaded 1).Reaches oneDisbursement trace rest t ∧
    accepted ⟨1, 0⟩ trace = true ∧ t.transfers ⟨1, 0⟩ = .accepted ∧
    t.outflows[0]? = some outflow ∧ ¬ Recoverable 0 outflow trace t := by
  have ran : (stoppedDispatch (List.replicate 3 {})).any fun r => accepted ⟨1, 0⟩ r.1 &&
      decide (r.2.transfers ⟨1, 0⟩ = .accepted) &&
        r.2.outflows[0]?.any fun outflow => decide (outflow.status = .pending) := by
    decide +kernel
  obtain ⟨r, made, checked⟩ := (Option.any_eq_true _ _).mp ran
  simp only [Bool.and_eq_true, decide_eq_true_eq] at checked
  obtain ⟨⟨sent, known⟩, row⟩ := checked
  obtain ⟨outflow, found, pending⟩ := (Option.any_eq_true _ _).mp row
  obtain ⟨rest, stopped⟩ := Proc.stopped_reaches made
  exact ⟨r.1, rest, r.2, outflow, stopped, sent, known, found,
    not_recoverable (of_decide_eq_true pending)⟩

end Bitmonie.TransferRecovery
