import Bitmonie.TransferRecovery

/-! What one cycle of the reconciler does, when some of its queries and writes fail: each row has
a turn of its own. -/
namespace Bitmonie.ReconcilerCycle
open DisbursementProvider DisbursementsService OutflowsService OutflowReconciler TransferRecovery

/-- What the provider's word makes of the status of a row. -/
def resolvedStatus (transfers : OutflowReference → TransferState) (outflow : Outflow) : OutflowStatus :=
  if outflow.provider ≠ "palmpay" then outflow.status
  else match transfers outflow.providerReference with
  | .completed => .successful
  | .failed => .failed
  | .accepted | .absent => outflow.status

def Served (i : Answer) : Prop := i.fails = false ∧ i.lost = false

/-- A row is as it was, or as the provider says; when `strict`, it is as the provider says. -/
structure Reconciled (strict : Prop) (transfers : OutflowReference → TransferState)
    (outflow outflow' : Outflow) : Prop where
  kept : outflow' = outflow ∨ outflow'.status = resolvedStatus transfers outflow
  settled : strict → outflow'.status = resolvedStatus transfers outflow

def alone (strict : Prop) : Contract World Answer Access where
  inv _ := True
  allowed _ i _ := strict → Served i
  rely := Eq
  guar _ _ _ _ := True

section Turn
variable {strict : Prop} {tid id : Nat} {outflow : Outflow} {w : World}
  {transfers : OutflowReference → TransferState}

def RowIs (strict : Prop) (transfers : OutflowReference → TransferState) (id : Nat)
    (outflow : Outflow) (w : World) : Prop :=
  ∃ outflow', w.outflows[id]? = some outflow' ∧ Reconciled strict transfers outflow outflow'

/-- What leaves the outflows alone leaves the row as it is. -/
theorem rest_keeps {p : Action Unit} (leaves : p.Leaves World.outflows)
    (here : RowIs strict transfers id outflow w) :
    p.Meets (alone strict) (fun _ => RowIs strict transfers id outflow)
      (fun _ => RowIs strict transfers id outflow) w := by
  refine leaves.meets (fun _ _ same here => same ▸ here) (fun _ _ _ _ _ _ => ⟨trivial, trivial⟩) ?_ here
  rintro s t same ⟨outflow', found, reconciled⟩
  exact ⟨outflow', by rw [same, found], reconciled⟩

/-- The first write of a settlement gives the row the status the provider reports. -/
theorem mark_meets {label : Access} {data : Answer → Outflow → Outflow} {disbursementId : Nat}
    (reports : ∀ i, (data i outflow).status = resolvedStatus transfers outflow)
    (found : w.outflows[id]? = some outflow) :
    (commit label (fun _ => true) fun i w => (updateOutflow id (data i) w).map fun w' =>
      ((), settling tid disbursementId i w')).Meets (alone strict)
      (fun _ => RowIs strict transfers id outflow) (fun _ => RowIs strict transfers id outflow) w := by
  rw [commit, Proc.meets_access]
  rintro t rfl - - i served
  refine ⟨trivial, trivial, ?_⟩
  have written : updateOutflow id (data i) w =
      .ok { w with outflows := w.outflows.set id (data i outflow) } :=
    updateOutflow_ok.mpr ⟨outflow, found, rfl⟩
  have marked : RowIs strict transfers id outflow (settling tid disbursementId i
      { w with outflows := w.outflows.set id (data i outflow) }) := by
    obtain ⟨claims, same⟩ := settling_claims tid disbursementId i
      { w with outflows := w.outflows.set id (data i outflow) }
    rw [same]
    exact ⟨_, getElem?_set_of_eq found, .inr (reports i), fun _ => reports i⟩
  unfold committed
  cases fails : i.fails with
  | true =>
    refine ⟨outflow, found, .inl rfl, fun holds => ?_⟩
    exact absurd (served holds).1 (by simp [fails])
  | false =>
    simp only [written]
    cases i.lost <;> exact marked

theorem closing_leaves {label : Access} {f : Answer → World → Except AppError (α × World)}
    (disbursementId : Nat)
    (leaves : ∀ i s a t, f i s = .ok (a, t) →
      t.outflows = s.outflows ∧ t.transfers = s.transfers) :
    (closing disbursementId label f).Leaves fun w => (w.outflows, w.transfers) := by
  refine Proc.leaves_access fun i s => ?_
  dsimp only
  split
  · rfl
  split
  · rfl
  · rename_i a t done
    obtain ⟨outflows, transfers⟩ := leaves i s a t done
    rw [outflows, transfers]

theorem markSuccessful_leaves (disbursementId : Nat) :
    (markSuccessful disbursementId).Leaves fun w => (w.outflows, w.transfers) := by
  refine closing_leaves disbursementId fun i s a t done => ?_
  obtain ⟨_, updated, -, rfl⟩ := map_pair_ok.mp done
  obtain ⟨row, -, rfl⟩ := updateDisbursement_ok.mp updated
  exact ⟨rfl, rfl⟩

theorem markOnHoldAlerted_leaves (disbursementId : Nat) :
    (markOnHoldAlerted disbursementId).Leaves fun w => (w.outflows, w.transfers) := by
  refine commit_leaves fun i s a t done => ?_
  obtain ⟨_, updated, -, rfl⟩ := map_pair_ok.mp done
  obtain ⟨row, -, rfl⟩ := updateDisbursement_ok.mp updated
  rfl

theorem markOnHoldAndMaybeAlert_leaves (disbursementId : Nat) (failureReason : String) :
    (markOnHoldAndMaybeAlert disbursementId failureReason).Leaves fun w =>
      (w.outflows, w.transfers) := by
  have holds : (updateUnlessOnHold disbursementId failureReason).Leaves fun w =>
      (w.outflows, w.transfers) := by
    refine closing_leaves disbursementId fun i s a t done => ?_
    have kept := holdRow_marked disbursementId failureReason i.now s
    rw [Except.ok.inj done] at kept
    rcases kept with rfl | ⟨_, _, _, _, rfl⟩ <;> exact ⟨rfl, rfl⟩
  refine (holds.bind fun isFirstTransition => ?_).bind fun isFirstTransition => ?_
  · cases isFirstTransition with
    | true => trivial
    | false => exact query_leaves.bind fun _ => trivial
  · cases isFirstTransition with
    | true =>
      refine query_leaves.bind fun fresh => ?_
      cases fresh with
      | none => trivial
      | some _ => exact markOnHoldAlerted_leaves disbursementId
    | false => trivial

/-- What follows the write of the outflow when the transfer is completed. -/
theorem afterSuccess_leaves (disbursementId : Nat) :
    ((markSuccessful disbursementId).bind fun _ =>
      (query fun _ w => .ok (findById disbursementId w)).bind fun fresh =>
      match fresh with
      | none => .pure ()
      | some _ => query fun _ _ => .ok ()).Leaves fun w => (w.outflows, w.transfers) := by
  refine (markSuccessful_leaves disbursementId).bind fun _ => query_leaves.bind fun fresh => ?_
  cases fresh with
  | none => trivial
  | some _ => exact query_leaves

/-- A turn of a row, started where the row is as it was read. -/
theorem turn_meets (found : w.outflows[id]? = some outflow) :
    ((reconcileOutflow tid (id, outflow)).catching fun _ => .pure ()).Meets (alone strict)
      (fun _ => RowIs strict w.transfers id outflow) (fun _ _ => False) w := by
  rw [Proc.meets_catching]
  suffices turn : (reconcileOutflow tid (id, outflow)).Meets (alone strict)
      (fun _ => RowIs strict w.transfers id outflow)
      (fun _ => RowIs strict w.transfers id outflow) w from
    turn.imp (fun _ _ here => here) fun _ _ here => here
  -- A row that has no provider, or none the worker knows.
  unfold reconcileOutflow
  by_cases other : outflow.provider ≠ "palmpay"
  · rw [if_pos other]
    have kept : outflow.status = resolvedStatus w.transfers outflow := by
      rw [resolvedStatus, if_pos other]
    exact ⟨outflow, found, .inl rfl, fun _ => kept⟩
  rw [if_neg other, Proc.meets_bind, getTransferStatus, query, queryAs, Proc.meets_access]
  rintro t rfl - - i served
  refine ⟨trivial, trivial, ?_⟩
  cases fails : i.fails with
  | true =>
    rw [if_pos rfl]
    refine ⟨outflow, found, .inl rfl, fun holds => ?_⟩
    exact absurd (served holds).1 (by simp [fails])
  | false =>
    rw [if_neg Bool.false_ne_true]
    dsimp only [Proc.outcome_ok]
    cases state : w.transfers outflow.providerReference with
    | completed =>
      have reports (i : Answer) : OutflowStatus.successful = resolvedStatus w.transfers outflow := by
        rw [resolvedStatus, if_neg other, state]
      refine (mark_meets reports found).seq fun _ t here => ?_
      exact rest_keeps ((afterSuccess_leaves outflow.disbursementId).comp Prod.fst) here
    | failed =>
      have reports (i : Answer) : OutflowStatus.failed = resolvedStatus w.transfers outflow := by
        rw [resolvedStatus, if_neg other, state]
      refine (mark_meets reports found).seq fun _ t here => ?_
      exact rest_keeps ((markOnHoldAndMaybeAlert_leaves outflow.disbursementId _).comp Prod.fst) here
    | accepted | absent =>
      have kept : outflow.status = resolvedStatus w.transfers outflow := by
        rw [resolvedStatus, if_neg other, state]
      exact ⟨outflow, found, .inl rfl, fun _ => kept⟩

def elsewhere (id : Nat) (rows : List Outflow × (OutflowReference → TransferState)) :
    (OutflowReference → TransferState) × (Nat → Option Outflow) :=
  (rows.2, fun other => if other = id then none else rows.1[other]?)

def others (id : Nat) (w : World) : (OutflowReference → TransferState) × (Nat → Option Outflow) :=
  elsewhere id (w.outflows, w.transfers)

theorem mark_leaves {label : Access} {data : Answer → Outflow → Outflow} {disbursementId : Nat} :
    (commit label (fun _ => true) fun i w => (updateOutflow id (data i) w).map fun w' =>
      ((), settling tid disbursementId i w')).Leaves (others id) := by
  refine commit_leaves fun i s a t done => ?_
  obtain ⟨_, updated, -, rfl⟩ := map_pair_ok.mp done
  obtain ⟨before, -, rfl⟩ := updateOutflow_ok.mp updated
  obtain ⟨claims, same⟩ := settling_claims tid disbursementId i
    { s with outflows := s.outflows.set id (data i before) }
  rw [same]
  refine Prod.ext rfl (funext fun other => ?_)
  by_cases here : other = id
  · simp [others, elsewhere, here]
  · simp [others, elsewhere, here, List.getElem?_set_ne (Ne.symm here)]

theorem turn_leaves (outflow : Outflow) :
    ((reconcileOutflow tid (id, outflow)).catching fun _ => .pure ()).Leaves (others id) := by
  refine Proc.Leaves.catching ?_ fun _ => trivial
  unfold reconcileOutflow
  split
  · trivial
  refine query_leaves.bind fun status => ?_
  split
  · exact mark_leaves.bind fun _ => (afterSuccess_leaves outflow.disbursementId).comp (elsewhere id)
  · exact mark_leaves.bind fun _ =>
      (markOnHoldAndMaybeAlert_leaves outflow.disbursementId _).comp (elsewhere id)
  · trivial

theorem others_eq {s t : World} (same : others id t = others id s) :
    t.transfers = s.transfers ∧ ∀ other, other ≠ id → t.outflows[other]? = s.outflows[other]? := by
  obtain ⟨transfers, rows⟩ := Prod.mk.inj same
  refine ⟨transfers, fun other there => ?_⟩
  simpa [there] using congrFun rows other

end Turn

theorem staleOutflows_ids (now : Time) (w : World) :
    ((staleOutflows now w).map Prod.fst).Nodup := by
  have sorted := List.perm_insertionSort
    (fun a b : Nat × Outflow => ∀ s ∈ a.2.initiatedAt, ∀ t ∈ b.2.initiatedAt, s ≤ t)
    (findRows w.outflows fun outflow =>
      outflow.status = .processing &&
        outflow.initiatedAt.any (· < now - outflowProcessingStaleSec * 1000))
  rw [staleOutflows, (sorted.map Prod.fst).nodup_iff]
  exact List.pairwise_map.mpr ((findRows_ordered _ _).imp fun before => Nat.ne_of_lt before)

/-- The rows that are read each have their turn, and a turn is about its own row. -/
theorem turns_reconcile {tid : Nat} {rows : List (Nat × Outflow)} {s t : World}
    {turns : List ((Nat × Outflow) × Finished World Answer Access AppError Unit)}
    (turned : Proc.Turns (fun outflow => (reconcileOutflow tid outflow).catching fun _ => .pure ())
      rows s turns t)
    (distinct : (rows.map Prod.fst).Nodup) (read : ∀ row ∈ rows, s.outflows[row.1]? = some row.2) :
    turns.map Prod.fst = rows ∧ t.transfers = s.transfers ∧
      (∀ id, id ∉ rows.map Prod.fst → t.outflows[id]? = s.outflows[id]?) ∧
      ∀ turn ∈ turns, RowIs (∀ e ∈ turn.2.trace, Served e.answer) s.transfers
        turn.1.1 turn.1.2 t := by
  induction turned with
  | done => exact ⟨rfl, rfl, fun _ _ => rfl, by simp⟩
  | stop ran threw =>
    obtain ⟨_, returned⟩ := Proc.exec_catching_pure ran
    rw [threw] at returned
    cases returned
  | @next row answers s f rest turns t ran returned later ih =>
    obtain ⟨id, outflow⟩ := row
    obtain ⟨fresh, distinct⟩ := List.nodup_cons.mp distinct
    obtain ⟨transfers, kept⟩ := others_eq ((turn_leaves outflow).exec ran)
    obtain ⟨here, read⟩ := List.forall_mem_cons.mp read
    have after : ∀ row ∈ rest, f.state.outflows[row.1]? = some row.2 := by
      intro row member
      have other : row.1 ≠ id := fun same => fresh (List.mem_map.mpr ⟨row, member, same⟩)
      rw [kept row.1 other, read row member]
    obtain ⟨turned, same, untouched, each⟩ := ih distinct after
    refine ⟨by rw [List.map_cons, turned], same.trans transfers, ?_, List.forall_mem_cons.mpr ⟨?_, ?_⟩⟩
    · intro other outside
      rw [List.map_cons, List.mem_cons, not_or] at outside
      obtain ⟨there, outside⟩ := outside
      rw [untouched other outside, kept other there]
    · have turn : ((reconcileOutflow tid (id, outflow)).catching fun _ => .pure ()).Meets
          (alone (∀ e ∈ f.trace, Served e.answer)) _ _ _ := turn_meets here
      have ended := (turn.exec (fun _ => rfl) trivial ran fun e member strict => strict e member).2.2
      rw [Finished.Ends, returned] at ended
      obtain ⟨outflow', found, reconciled⟩ := ended
      exact ⟨outflow', by rw [untouched id fresh, found], reconciled⟩
    · rw [← transfers]
      exact each

/-- A read with what follows it, or its failure. -/
theorem read_exec {f : Answer → World → Except AppError α} {next : α → Action β}
    {answers : List Answer} {w : World} {r : Finished World Answer Access AppError β}
    (ran : ((query f).bind next).exec answers w = some r) :
    ∃ i, (∃ a rest tail, f i w = .ok a ∧ (next a).exec rest w = some tail ∧
        r = tail.after ⟨.read, i, w, w⟩) ∨
      ∃ e, r = ⟨.error e, w, [⟨.read, i, w, w⟩]⟩ := by
  obtain ⟨i, rest, rfl, ends⟩ := Proc.exec_access_bind ran
  refine ⟨i, ?_⟩
  cases fails : i.fails with
  | true =>
    rcases ends with ⟨a, tail, read, -, -⟩ | ⟨e, -, rfl⟩
    · simp [fails] at read
    · exact .inr ⟨e, by simp [fails]⟩
  | false =>
    simp only [fails, Bool.false_eq_true, if_false] at ends
    rcases ends with ⟨a, tail, read, after, rfl⟩ | ⟨e, -, rfl⟩
    · exact .inl ⟨a, rest, tail, read, after, rfl⟩
    · exact .inr ⟨e, rfl⟩

theorem heartbeat_keeps {i : Answer} {w : World} :
    (committed (fun _ w => .ok ((), w)) i w : Except AppError Unit × World).2 = w := by
  cases fails : i.fails <;> simp [committed, fails]

/-- The two statements before the loop. -/
theorem opening {tid : Nat} {answers : List Answer} {w : World}
    {f : Finished World Answer Access AppError Unit}
    (ran : (runReconcilerCycle tid).exec answers w = some f) :
    (∃ e, f.result = .error e ∧ f.state = w ∧ f.trace.length ≤ 2) ∨
    ∃ (read heartbeat : Event World Answer Access) (rest : List Answer)
      (tail : Finished World Answer Access AppError Unit),
      (Proc.each (staleOutflows read.answer.now w) fun outflow =>
        (reconcileOutflow tid outflow).catching fun _ => .pure ()).exec rest w = some tail ∧
      f = ⟨tail.result, tail.state, read :: heartbeat :: tail.trace⟩ := by
  obtain ⟨i, ⟨_, _, first, read, after, rfl⟩ | ⟨e, rfl⟩⟩ := read_exec ran
  · obtain rfl := Except.ok.inj read
    obtain ⟨j, rest, rfl, ⟨_, tail, _, looped, rfl⟩ | ⟨e, _, rfl⟩⟩ := Proc.exec_access_bind after
    · rw [heartbeat_keeps] at looped
      exact .inr ⟨⟨.read, i, w, w⟩, ⟨.redis, j, w, _⟩, rest, tail, looped, rfl⟩
    · exact .inl ⟨e, rfl, heartbeat_keeps, by simp [Finished.after]⟩
  · exact .inl ⟨e, rfl, rfl, by simp⟩

/-- A cycle throws in its first two statements, with nothing changed, or it has given every
candidate one turn, oldest first, whatever became of the turns before. It changes no other row.
The row of a turn whose statements were all served has the status that the provider reports; the
row of a turn that failed is as it was, or so. -/
theorem cycle_reconciles {tid : Nat} {answers : List Answer} {w : World}
    {f : Finished World Answer Access AppError Unit}
    (ran : (runReconcilerCycle tid).exec answers w = some f) :
    (∃ e, f.result = .error e ∧ f.state = w ∧ f.trace.length ≤ 2) ∨
    f.result = .ok () ∧
    ∃ (read heartbeat : Event World Answer Access)
      (turns : List ((Nat × Outflow) × List (Event World Answer Access))),
      f.trace = read :: heartbeat :: turns.flatMap (fun turn => turn.2) ∧
      turns.map (fun turn => turn.1) = staleOutflows read.answer.now w ∧
      f.state.transfers = w.transfers ∧
      (∀ id, id ∉ (staleOutflows read.answer.now w).map Prod.fst →
        f.state.outflows[id]? = w.outflows[id]?) ∧
      ∀ turn ∈ turns, ∃ outflow', f.state.outflows[turn.1.1]? = some outflow' ∧
        Reconciled (∀ e ∈ turn.2, Served e.answer) w.transfers turn.1.2 outflow' := by
  rcases opening ran with failed | ⟨read, heartbeat, rest, tail, looped, rfl⟩
  · exact .inl failed
  obtain ⟨turns, turned, trace⟩ := Proc.turns_of_exec looped
  obtain ⟨rows, transfers, untouched, each⟩ := turns_reconcile turned
    (staleOutflows_ids read.answer.now w) fun row member => (mem_staleOutflows.mp member).1
  have returned : tail.result = .ok () :=
    Proc.each_returns looped fun row answers s f turn => (Proc.exec_catching_pure turn).choose_spec
  refine .inr ⟨returned, read, heartbeat, turns.map fun turn => (turn.1, turn.2.trace), ?_, ?_,
    transfers, untouched, ?_⟩
  · rw [trace, List.flatMap_map]
  · rw [List.map_map, ← rows]
    rfl
  · intro turn member
    obtain ⟨full, took, rfl⟩ := List.mem_map.mp member
    exact each full took

/-- Two attempts whose transfers are completed, the older one last. -/
def twoStale : World where
  disbursements := [PayoutRecords.newDisbursement]
  outflows := [1, 2].map fun attemptNumber =>
    { disbursementId := 0, userId := 0, attemptNumber, provider := "palmpay"
      providerReference := ⟨attemptNumber, 0⟩, status := .processing
      initiatedAt := some (10 - (attemptNumber : Int)) }
  transfers _ := .completed

/-- The provider does not answer about the older one; the other has its turn all the same. -/
theorem cycle_reconciles_sample : ∃ f,
    (runReconcilerCycle 0).exec [{ now := 400000 }, {}, { fails := true }, {}, {}, {}, {}, {}]
      twoStale = some f ∧
    f.state.outflows.map (·.status) = [.successful, .processing] ∧
    ∃ (read heartbeat : Event World Answer Access)
      (turns : List ((Nat × Outflow) × List (Event World Answer Access))),
      f.trace = read :: heartbeat :: turns.flatMap (fun turn => turn.2) ∧
      turns.map (fun turn => turn.1) = staleOutflows read.answer.now twoStale ∧
      ∀ turn ∈ turns, ∃ outflow', f.state.outflows[turn.1.1]? = some outflow' ∧
        Reconciled (∀ e ∈ turn.2, Served e.answer) twoStale.transfers turn.1.2 outflow' := by
  have ran : ((runReconcilerCycle 0).exec
      [{ now := 400000 }, {}, { fails := true }, {}, {}, {}, {}, {}] twoStale).any fun f =>
      decide (f.result = .ok () ∧ f.state.outflows.map (·.status) = [.successful, .processing]) := by
    decide +kernel
  obtain ⟨f, ran, checked⟩ := (Option.any_eq_true _ _).mp ran
  obtain ⟨returned, statuses⟩ := of_decide_eq_true checked
  refine ⟨f, ran, statuses, ?_⟩
  rcases cycle_reconciles ran with ⟨e, threw, -, -⟩ | ⟨-, read, heartbeat, turns, trace, rows, -, -, each⟩
  · rw [returned] at threw
    cases threw
  · exact ⟨read, heartbeat, turns, trace, rows, each⟩

end Bitmonie.ReconcilerCycle
