import Bitmonie.PayoutRules

/-! Finality of payout records under every interleaving. The writers update by id, and the
guards were evaluated before; so finality needs that no other call gets in between. -/
namespace Bitmonie.PayoutRecords
open DisbursementsService DisbursementProvider OutflowsService OpsDisbursementsService PayoutRules

inductive Operation where
  | dispatch (disbursementId : Nat)
  | retryDispatch (disbursementId : Nat)
  | retry (disbursementId : Nat)
  | cancel (disbursementId opsUserId : Nat) (reason : String)
  | abandonAttempt (disbursementId : Nat) (reason : String)
  | payoutWebhook (parsed : Option PalmpayPayoutWebhook.PayoutNotification)
  | runReconcilerCycle
  | settleTransfer (reference : OutflowReference) (completes : Bool)

def procedure (tid : Nat) : Operation → Action Unit
  | .dispatch disbursementId => dispatch tid disbursementId
  | .retryDispatch disbursementId => retryDispatch tid disbursementId
  | .retry disbursementId => retry tid disbursementId
  | .cancel disbursementId opsUserId reason => cancel disbursementId opsUserId reason
  | .abandonAttempt disbursementId reason => abandonAttempt tid disbursementId reason
  | .payoutWebhook parsed => (PalmpayPayoutWebhook.handle tid parsed).bind fun _ => .pure ()
  | .runReconcilerCycle => OutflowReconciler.runReconcilerCycle tid
  | .settleTransfer reference completes => settleTransfer reference completes

/-- Outflows that are SUCCESSFUL or FAILED, and disbursements that are SUCCESSFUL or
CANCELLED, keep their status. -/
structure Final (s t : World) : Prop where
  outflow : ∀ (id : Nat) (outflow : Outflow), s.outflows[id]? = some outflow →
    outflow.status.inFlight = false →
      ∃ outflow', t.outflows[id]? = some outflow' ∧ outflow'.status = outflow.status
  disbursement : ∀ (id : Nat) (row : Disbursement), s.disbursements[id]? = some row →
    row.status.terminal = true →
      ∃ row', t.disbursements[id]? = some row' ∧ row'.status = row.status

theorem Final.refl (w : World) : Final w w :=
  ⟨fun _ outflow found _ => ⟨outflow, found, rfl⟩, fun _ row found _ => ⟨row, found, rfl⟩⟩

theorem Final.trans {r s t : World} (first : Final r s) (second : Final s t) : Final r t where
  outflow id outflow found settled := by
    obtain ⟨outflow', found', same⟩ := first.outflow id outflow found settled
    obtain ⟨outflow'', found'', same'⟩ := second.outflow id outflow' found' (same ▸ settled)
    exact ⟨outflow'', found'', same'.trans same⟩
  disbursement id row found terminal := by
    obtain ⟨row', found', same⟩ := first.disbursement id row found terminal
    obtain ⟨row'', found'', same'⟩ := second.disbursement id row' found' (same ▸ terminal)
    exact ⟨row'', found'', same'.trans same⟩

/-- An outflow that is in flight may be given any status. -/
theorem Final.set_outflow {w : World} {id : Nat} {before after : Outflow}
    (found : w.outflows[id]? = some before)
    (flying : before.status.inFlight = true ∨ after.status = before.status)
    (claims : Nat → Option Nat) :
    Final w { w with outflows := w.outflows.set id after, settling := claims } where
  outflow other outflow present settled := by
    by_cases same : id = other
    · subst same
      obtain rfl := Option.some.inj (found.symm.trans present)
      refine ⟨after, getElem?_set_of_eq found, ?_⟩
      rcases flying with flying | same
      · rw [flying] at settled
        cases settled
      · exact same
    · exact ⟨outflow, (List.getElem?_set_ne same).trans present, rfl⟩
  disbursement _ row present _ := ⟨row, present, rfl⟩

/-- A disbursement that is not terminal may be given any status. -/
theorem Final.set_disbursement {w : World} {id : Nat} {before after : Disbursement}
    (found : w.disbursements[id]? = some before)
    (unsettled : before.status.terminal = false ∨ after.status = before.status)
    (claims : Nat → Option Nat) :
    Final w { w with disbursements := w.disbursements.set id after, settling := claims } where
  outflow _ outflow present _ := ⟨outflow, present, rfl⟩
  disbursement other row present terminal := by
    by_cases same : id = other
    · subst same
      obtain rfl := Option.some.inj (found.symm.trans present)
      refine ⟨after, getElem?_set_of_eq found, ?_⟩
      rcases unsettled with unsettled | same
      · rw [terminal] at unsettled
        cases unsettled
      · exact same
    · exact ⟨row, (List.getElem?_set_ne same).trans present, rfl⟩

def Quiet (disbursementId : Nat) (w : World) : Prop :=
  ∀ (id : Nat) (outflow : Outflow), w.outflows[id]? = some outflow →
    outflow.disbursementId = disbursementId → outflow.status.inFlight = false

/-- The row is neither SUCCESSFUL nor CANCELLED. -/
def unsettled (disbursementId : Nat) (w : World) : Bool :=
  (w.disbursements[disbursementId]?).all fun row => !row.status.terminal

def hasStatus (disbursementId : Nat) (status : DisbursementStatus) (w : World) : Bool :=
  (w.disbursements[disbursementId]?).any (·.status = status)

/-- The call between the two writes of a settlement, until the disbursement is at its end. -/
def settler (w : World) (disbursementId : Nat) : Option Nat :=
  if unsettled disbursementId w then w.settling disbursementId else none

/-- One outflow in flight at most, and none beside a settlement or after the end. -/
structure Orderly (disbursementId : Nat) (w : World) : Prop where
  single : ∀ (a b : Nat) (first second : Outflow), w.outflows[a]? = some first →
    w.outflows[b]? = some second → first.disbursementId = disbursementId →
    second.disbursementId = disbursementId → first.status.inFlight = true →
    second.status.inFlight = true → a = b
  settles : settler w disbursementId ≠ none → Quiet disbursementId w
  closed : unsettled disbursementId w = false → Quiet disbursementId w

/-- No outflow is in flight and no call is between the two writes of a settlement. -/
def idle (disbursementId : Nat) (w : World) : Bool :=
  (w.outflows.all fun outflow =>
    outflow.disbursementId ≠ disbursementId || !outflow.status.inFlight) &&
    (w.settling disbursementId).isNone

/-- The outflow and its disbursement are SUCCESSFUL. -/
def paidOut (outflow : Outflow) (w : World) : Bool :=
  outflow.status = .successful && hasStatus outflow.disbursementId .successful w

/-- An outflow is updated while it is in flight, as the call that updates it saw it; a
disbursement is marked PROCESSING or CANCELLED while it is not terminal, as its call saw
it; and a new attempt or a cancellation finds the disbursement idle. What is paid out may be
marked SUCCESSFUL again, and what is CANCELLED may be cancelled again. -/
def undisturbed : Access → Answer → World → Bool
  | .outflowStatus id status, i, w => i.fails || (w.outflows[id]?).all fun outflow =>
      outflow.status.inFlight || status = .successful && paidOut outflow w
  | .createOutflow id, i, w => i.fails || (idle id w && unsettled id w)
  | .disbursementStatus id .processing, i, w => i.fails || unsettled id w
  | .disbursementStatus id .cancelled, i, w =>
    i.fails || (idle id w && unsettled id w) || hasStatus id .cancelled w
  | _, _, _ => true

/-- Settlements belong to the call that began them. -/
abbrev Settling : Nat → World → World → Prop := Owned settler fun _ _ => ()

def records : Discipline World Answer Access where
  inv w := ∀ disbursementId, Orderly disbursementId w
  allowed label i w := undisturbed label i w = true
  fresh _ _ := True
  rely tid s t := Settling tid s t ∧ Persists s t ∧ Final s t
  guar tid _ _ s t := (∀ other, tid ≠ other → Settling other s t) ∧ Persists s t ∧ Final s t

theorem records_sound : records.Sound where
  refl tid s := ⟨Owned.refl tid s, Persists.refl s, Final.refl s⟩
  trans _ _ _ _ first second :=
    ⟨first.1.trans second.1, first.2.1.trans second.2.1, first.2.2.trans second.2.2⟩
  compatible _ other _ _ _ _ different _ guar := ⟨guar.1 other different, guar.2⟩
  fresh _ _ _ _ _ := trivial

abbrev contract (tid : Nat) : Contract World Answer Access := records.contract tid

theorem quiet_of_idle {disbursementId : Nat} {w : World} (here : idle disbursementId w = true) :
    Quiet disbursementId w ∧ w.settling disbursementId = none := by
  simp only [idle, Bool.and_eq_true, List.all_eq_true, Option.isNone_iff_eq_none] at here
  refine ⟨fun id outflow found owner => ?_, here.2⟩
  simpa [owner] using here.1 outflow (List.mem_of_getElem? found)

theorem settler_of_open {id : Nat} {w : World} (going : unsettled id w = true) :
    settler w id = w.settling id := if_pos going

theorem settler_of_ended {id : Nat} {w : World} (ended : unsettled id w = false) :
    settler w id = none := by
  rw [settler, ended]
  rfl

theorem settler_of_none {id : Nat} {w : World} (none : w.settling id = none) :
    settler w id = .none := by rw [settler, none, ite_self]

/-- The disbursements are as before. -/
theorem settler_claims (w : World) (outflows : List Outflow) (claims : Nat → Option Nat) (id : Nat) :
    settler { w with outflows, settling := claims } id =
      if unsettled id w then claims id else none := rfl

theorem ended_of_status {id : Nat} {status : DisbursementStatus} {w : World}
    (terminal : status.terminal = true) (has : hasStatus id status w = true) :
    unsettled id w = false := by
  obtain ⟨row, found, same⟩ := (Option.any_eq_true ..).mp has
  rw [unsettled, found, Option.all_some, of_decide_eq_true same, terminal]
  rfl

/-- The disbursement of an attempt in flight is not at its end. -/
theorem Orderly.open_of_flying {disbursementId id : Nat} {outflow : Outflow} {w : World}
    (orderly : Orderly disbursementId w) (found : w.outflows[id]? = some outflow)
    (owner : outflow.disbursementId = disbursementId) (flying : outflow.status.inFlight = true) :
    unsettled disbursementId w = true := by
  by_contra ended
  rw [orderly.closed (by simpa using ended) id outflow found owner] at flying
  cases flying

/-- The step of an outflow: it was in flight, so it was the only one, or stays as it is. -/
theorem orderly_outflow {w : World} {id : Nat} {before after : Outflow}
    (orderly : ∀ disbursementId, Orderly disbursementId w)
    (found : w.outflows[id]? = some before)
    (flying : before.status.inFlight = true ∨
      after.status = before.status ∧ unsettled before.disbursementId w = false)
    (owner : after.disbursementId = before.disbursementId) (claims : Nat → Option Nat)
    (claimed : ∀ disbursementId, claims disbursementId = w.settling disbursementId ∨
      (disbursementId = before.disbursementId ∧ after.status.inFlight = false)) :
    ∀ disbursementId, Orderly disbursementId
      { w with outflows := w.outflows.set id after, settling := claims } := by
  -- What is in flight afterwards was in flight before.
  have was (other : Nat) (outflow : Outflow) (present : (w.outflows.set id after)[other]? = some outflow)
      (flies : outflow.status.inFlight = true) : ∃ earlier, w.outflows[other]? = some earlier ∧
        earlier.disbursementId = outflow.disbursementId ∧ earlier.status.inFlight = true := by
    rcases getElem?_set_cases present with ⟨rfl, rfl⟩ | ⟨_, old⟩
    · refine ⟨before, found, owner.symm, ?_⟩
      rcases flying with flying | ⟨same, _⟩
      · exact flying
      · rwa [← same]
    · exact ⟨outflow, old, rfl, flies⟩
  have quiet (disbursementId : Nat) (still : Quiet disbursementId w) :
      Quiet disbursementId { w with outflows := w.outflows.set id after, settling := claims } := by
    intro other outflow present belongs
    by_contra flies
    obtain ⟨earlier, had, same, flew⟩ := was other outflow present (by simpa using flies)
    rw [still other earlier had (same.trans belongs)] at flew
    cases flew
  intro disbursementId
  refine ⟨fun a b first second hasA hasB ownA ownB fliesA fliesB => ?_, fun settles => ?_,
    fun ended => quiet _ ((orderly disbursementId).closed ended)⟩
  · obtain ⟨first', hadA, sameA, flewA⟩ := was a first hasA fliesA
    obtain ⟨second', hadB, sameB, flewB⟩ := was b second hasB fliesB
    exact (orderly disbursementId).single a b first' second' hadA hadB (sameA.trans ownA)
      (sameB.trans ownB) flewA flewB
  · rw [settler_claims] at settles
    have going : unsettled disbursementId w = true := by
      by_contra ended
      exact settles (if_neg ended)
    rw [if_pos going] at settles
    rcases claimed disbursementId with same | ⟨rfl, landed⟩
    · exact quiet _ ((orderly disbursementId).settles (by rwa [settler_of_open going, ← same]))
    · intro other outflow present belongs
      by_contra flies
      have flies : outflow.status.inFlight = true := by simpa using flies
      obtain ⟨earlier, had, same, flew⟩ := was other outflow present flies
      rcases flying with flying | ⟨_, ended⟩
      · obtain rfl := (orderly before.disbursementId).single id other before earlier found had rfl
          (same.trans belongs) flying flew
        obtain rfl := Option.some.inj ((getElem?_set_of_eq found).symm.trans present)
        rw [landed] at flies
        cases flies
      · rw [going] at ended
        cases ended

theorem unsettled_set {w : World} {id : Nat} {before after : Disbursement}
    (found : w.disbursements[id]? = some before) (claims : Nat → Option Nat) :
    unsettled id { w with disbursements := w.disbursements.set id after, settling := claims } =
      !after.status.terminal := by
  rw [unsettled, getElem?_set_of_eq found, Option.all_some]

theorem unsettled_set_ne {w : World} {id other : Nat} {after : Disbursement} (different : other ≠ id)
    (claims : Nat → Option Nat) :
    unsettled other { w with disbursements := w.disbursements.set id after, settling := claims } =
      unsettled other w := by
  rw [unsettled, List.getElem?_set_ne (Ne.symm different), unsettled]

/-- The step of a disbursement: it ends only when nothing of it is going on. -/
theorem orderly_disbursement {w : World} {id : Nat} {before after : Disbursement}
    (orderly : ∀ disbursementId, Orderly disbursementId w)
    (found : w.disbursements[id]? = some before) (claims : Nat → Option Nat)
    (others : ∀ other, other ≠ id → claims other = w.settling other)
    (claimed : claims id ≠ none → w.settling id ≠ none)
    (kept : before.status.terminal = false ∨ after.status = before.status)
    (ends : after.status.terminal = true → Quiet id w) :
    ∀ disbursementId, Orderly disbursementId
      { w with disbursements := w.disbursements.set id after, settling := claims } := by
  intro disbursementId
  by_cases here : disbursementId = id
  · subst here
    refine ⟨(orderly disbursementId).single, fun settles => ?_, fun ended => ?_⟩
    · cases terminal : after.status.terminal with
      | true => exact ends terminal
      | false =>
        have going : unsettled disbursementId w = true := by
          have was : before.status.terminal = false := kept.elim (fun was => was) (· ▸ terminal)
          rw [unsettled, found, Option.all_some, was]
          rfl
        rw [settler, unsettled_set found, terminal] at settles
        exact (orderly disbursementId).settles (settler_of_open going ▸ claimed settles)
    · rw [unsettled_set found] at ended
      exact ends (by simpa using ended)
  · have same := @unsettled_set_ne w id disbursementId after here claims
    refine ⟨(orderly disbursementId).single, fun settles => ?_, fun ended => ?_⟩
    · refine (orderly disbursementId).settles ?_
      rw [settler, same] at settles
      dsimp only at settles
      rwa [others disbursementId here] at settles
    · exact (orderly disbursementId).closed (same ▸ ended)

theorem still (tid : Nat) (label : Access) (i : Answer) (w : World) :
    (contract tid).guar label i w w :=
  ⟨fun other _ => Owned.refl other w, Persists.refl w, Final.refl w⟩

/-- An update of an outflow, that may claim the settlement of its disbursement. -/
theorem outflowWrite_keeps {tid id disbursementId : Nat} {reference : OutflowReference}
    {status : OutflowStatus} {w : World} {post : Unit → World → Prop}
    {f : Answer → World → Except AppError (Unit × World)} (data : Answer → Outflow → Outflow)
    (claims : Answer → World → Nat → Option Nat)
    (here : Attempt id disbursementId reference w)
    (writes : ∀ i t t', f i t = .ok ((), t') → ∃ before, t.outflows[id]? = some before ∧
      t' = { t with outflows := t.outflows.set id (data i before), settling := claims i t })
    (same : ∀ i before, (data i before).disbursementId = before.disbursementId ∧
      (data i before).providerReference = before.providerReference ∧ (data i before).status = status)
    (claimed : ∀ i t, claims i t = t.settling ∨
      claims i t = Function.update t.settling disbursementId (some tid) ∧ status.inFlight = false)
    (ends : ∀ i t t', i.lost = false → t'.settling = claims i t → t'.disbursements = t.disbursements →
      unsettled disbursementId t = true ∨
        status = .successful ∧ hasStatus disbursementId .successful t = true → post () t') :
    Keeps (contract tid) post (commit (.outflowStatus id status) (fun _ => true) f) w := by
  apply commit_meets
  intro t moved orderly _ i allowed
  refine ⟨still tid _ i t, fun _ => trivial, fun _ _ => trivial, fun _ t' succeeds done => ?_⟩
  obtain ⟨before, found, rfl⟩ := writes i t t' done
  obtain ⟨row, present, owner, _⟩ := here.mono moved.2.1
  obtain rfl := Option.some.inj (found.symm.trans present)
  obtain ⟨ownerAfter, referenceAfter, statusAfter⟩ := same i before
  change undisturbed (.outflowStatus id status) i t = true at allowed
  have flying : before.status.inFlight = true ∨ (status = .successful ∧
      before.status = .successful) ∧ hasStatus disbursementId .successful t = true := by
    simpa [undisturbed, succeeds, found, paidOut, owner, and_assoc] using allowed
  have free : settler t disbursementId = none := by
    by_contra held
    rcases flying with flying | ⟨_, paid⟩
    · rw [(orderly disbursementId).settles held id before found owner] at flying
      cases flying
    · exact held (settler_of_ended (ended_of_status rfl paid))
  have kept : before.status.inFlight = true ∨
      (data i before).status = before.status ∧ unsettled before.disbursementId t = false := by
    rcases flying with flying | ⟨⟨again, was⟩, paid⟩
    · exact .inl flying
    · exact .inr ⟨by rw [statusAfter, again, was], owner ▸ ended_of_status rfl paid⟩
  refine ⟨orderly_outflow orderly found kept ownerAfter (claims i t) fun other => ?_,
    ⟨fun other different => ?_, Persists.set found ownerAfter referenceAfter _,
      Final.set_outflow found (kept.imp_right And.left) _⟩, fun known => ends i t _ known rfl rfl ?_,
    fun _ => trivial⟩
  · rcases claimed i t with unchanged | ⟨taken, lands⟩
    · exact .inl (by rw [unchanged])
    · by_cases key : other = disbursementId
      · exact .inr ⟨key.trans owner.symm, by rw [statusAfter, lands]⟩
      · exact .inl (by simp [taken, key])
  · rcases claimed i t with unchanged | ⟨taken, _⟩
    · exact .of_view (by rw [unchanged]; rfl) fun _ _ => rfl
    · refine .of_key disbursementId (fun k elsewhere => ⟨?_, rfl⟩) (by simp [free]) ?_
      · rw [settler_claims, taken, Function.update_of_ne elsewhere, settler]
      · rw [settler_claims, taken, Function.update_self]
        split
        · simpa using different
        · exact nofun
  · rcases flying with flying | ⟨⟨again, _⟩, paid⟩
    · exact .inl ((orderly disbursementId).open_of_flying found owner flying)
    · exact .inr ⟨again, paid⟩

/-- The first write of a settlement. -/
theorem settlingWrite_keeps {tid id disbursementId : Nat} {reference : OutflowReference}
    {status : OutflowStatus} {w : World} {data : Answer → Outflow → Outflow}
    (here : Attempt id disbursementId reference w)
    (same : ∀ i before, (data i before).disbursementId = before.disbursementId ∧
      (data i before).providerReference = before.providerReference ∧ (data i before).status = status)
    (lands : status.inFlight = false) :
    Keeps (contract tid) (fun _ t => settler t disbursementId = some tid ∨
        status = .successful ∧ hasStatus disbursementId .successful t = true)
      (commit (.outflowStatus id status) (fun _ => true) fun i w =>
        (updateOutflow id (data i) w).map fun w' => ((), settling tid disbursementId i w')) w := by
  refine outflowWrite_keeps data
    (fun i t => if i.lost then t.settling else Function.update t.settling disbursementId (some tid))
    here (fun i t t' done => ?_) same (fun i t => ?_) fun i t t' known holders rows kept => ?_
  · obtain ⟨t'', updated, -, rfl⟩ := map_pair_ok.mp done
    obtain ⟨before, found, rfl⟩ := updateOutflow_ok.mp updated
    refine ⟨before, found, ?_⟩
    unfold settling
    split <;> rfl
  · cases i.lost with
    | true => exact .inl rfl
    | false => exact .inr ⟨rfl, lands⟩
  · refine kept.imp (fun going => ?_) fun paid => ⟨paid.1, ?_⟩
    · rw [settler_of_open (by rwa [unsettled, rows]), holders, known]
      simp
    · rw [hasStatus, rows]
      exact paid.2

/-- An update of a disbursement that is not terminal, or stays as it is. -/
theorem disbursementWrite_keeps {tid id : Nat} {label : Access} {w : World}
    {data : Answer → Disbursement → Disbursement}
    (guarded : ∀ i t before, undisturbed label i t = true → i.fails = false →
      t.disbursements[id]? = some before →
      (data i before).status = before.status ∨ before.status.terminal = false ∧
        ((data i before).status.terminal = true → idle id t = true)) :
    Keeps (contract tid) (fun _ _ => True) (commit label (fun _ => true) fun i w =>
      (updateDisbursement id (data i) w).map ((), ·)) w := by
  apply commit_meets
  intro t _ orderly _ i allowed
  refine ⟨still tid _ i t, fun _ => trivial, fun _ _ => trivial, fun _ t' succeeds done => ?_⟩
  obtain ⟨t'', updated, -, rfl⟩ := map_pair_ok.mp done
  obtain ⟨before, found, rfl⟩ := updateDisbursement_ok.mp updated
  have kept := guarded i t before allowed succeeds found
  have unsettled' : unsettled id t = !before.status.terminal := by
    rw [unsettled, found, Option.all_some]
  have settlers : settler { t with disbursements := t.disbursements.set id (data i before) } =
      settler t := by
    funext other
    by_cases here : other = id
    · subst here
      unfold settler
      rw [@unsettled_set t other before (data i before) found t.settling, unsettled']
      rcases kept with same | ⟨going, idles⟩
      · rw [same]
      · cases terminal : (data i before).status.terminal with
        | false => rw [going]
        | true => simp [(quiet_of_idle (idles terminal)).2]
    · unfold settler
      rw [@unsettled_set_ne t id other (data i before) here t.settling]
  refine ⟨orderly_disbursement orderly found t.settling (fun _ _ => rfl) (fun held => held)
    (kept.symm.imp_left And.left) fun terminal => ?_,
    ⟨fun other _ => .of_view settlers fun _ _ => rfl, .of_eq rfl rfl,
      Final.set_disbursement found (kept.symm.imp_left And.left) t.settling⟩, fun _ => trivial,
    fun _ => trivial⟩
  rcases kept with same | ⟨_, idles⟩
  · exact (orderly id).closed (by rw [unsettled', ← same, terminal]; rfl)
  · exact (quiet_of_idle (idles terminal)).1

/-- The second write of a settlement: of a claim that no other call has, it is the end, and
the row is not terminal or stays as it is. -/
theorem settlement_keeps {tid id : Nat} {label : Access} {w : World}
    {f : Answer → World → Except AppError (α × World)}
    (here : ∀ t, (contract tid).rely w t → (contract tid).inv t →
      (∀ other, tid ≠ other → settler t id ≠ some other) ∧ Quiet id t)
    (writes : ∀ i t a t', (contract tid).rely w t → (contract tid).inv t → f i t = .ok (a, t') →
      t' = t ∨ ∃ before after, t.disbursements[id]? = some before ∧
        (before.status.terminal = false ∨ after.status = before.status) ∧
        t' = { t with disbursements := t.disbursements.set id after }) :
    Keeps (contract tid) (fun _ _ => True) (closing id label f) w := by
  apply closing_keeps
  intro t moved orderly i ended
  obtain ⟨mine, quiet⟩ := here t moved orderly
  have releases (other : Nat) (different : tid ≠ other) (t' : World)
      (holders : t'.settling = Function.update t.settling id none)
      (rows : ∀ k, k ≠ id → unsettled k t' = unsettled k t) : Settling other t t' := by
    refine .of_key id (fun k elsewhere => ⟨?_, rfl⟩) (mine other different) ?_
    · simp [settler, holders, rows k elsewhere, elsewhere]
    · simp [settler, holders]
  have nothing : (contract tid).inv (ended t) ∧ (contract tid).guar label i t (ended t) := by
    refine ⟨fun disbursementId => ⟨(orderly disbursementId).single, fun held => ?_,
      (orderly disbursementId).closed⟩, fun other different => releases other different _ rfl
        fun _ _ => rfl, .of_eq rfl rfl,
      ⟨fun _ outflow found _ => ⟨outflow, found, rfl⟩, fun _ row found _ => ⟨row, found, rfl⟩⟩⟩
    by_cases same : disbursementId = id
    · exact same ▸ quiet
    · refine (orderly disbursementId).settles ?_
      rwa [settler_claims t t.outflows, Function.update_of_ne same, ← settler] at held
  refine ⟨nothing, fun a t' done => ?_⟩
  rcases writes i t a t' moved orderly done with rfl | ⟨before, after, found, kept, rfl⟩
  · exact nothing
  · refine ⟨orderly_disbursement orderly found _ (fun other different => by simp [different])
      (fun held => absurd (by simp) held) kept fun _ => quiet,
      fun other different => releases other different _ rfl fun k elsewhere =>
        unsettled_set_ne elsewhere _, .of_eq rfl rfl, Final.set_disbursement found kept _⟩

/-- A new attempt of a disbursement that is idle and not terminal. -/
theorem orderly_create {w : World} {created : Outflow}
    (orderly : ∀ disbursementId, Orderly disbursementId w)
    (free : idle created.disbursementId w = true)
    (unsettled : unsettled created.disbursementId w = true) :
    ∀ disbursementId, Orderly disbursementId { w with outflows := w.outflows ++ [created] } := by
  obtain ⟨still, none⟩ := quiet_of_idle free
  have quiet (disbursementId : Nat) (different : disbursementId ≠ created.disbursementId)
      (still : Quiet disbursementId w) :
      Quiet disbursementId { w with outflows := w.outflows ++ [created] } := by
    intro other outflow present belongs
    rcases row_of_concat present with old | ⟨_, rfl⟩
    · exact still other outflow old belongs
    · exact absurd belongs.symm different
  intro disbursementId
  refine ⟨fun a b first second hasA hasB ownA ownB fliesA fliesB => ?_, fun settles => ?_,
    fun ended => ?_⟩
  · rcases row_of_concat hasA with oldA | ⟨atA, sameA⟩
    · rcases row_of_concat hasB with oldB | ⟨_, sameB⟩
      · exact (orderly disbursementId).single a b first second oldA oldB ownA ownB fliesA fliesB
      · rw [still a first oldA (ownA.trans (sameB ▸ ownB.symm))] at fliesA
        cases fliesA
    · rcases row_of_concat hasB with oldB | ⟨atB, _⟩
      · rw [still b second oldB (ownB.trans (sameA ▸ ownA.symm))] at fliesB
        cases fliesB
      · exact atA.trans atB.symm
  · refine quiet disbursementId ?_ ((orderly disbursementId).settles settles)
    rintro rfl
    exact settles (settler_of_none none)
  · refine quiet disbursementId ?_ ((orderly disbursementId).closed ended)
    rintro rfl
    cases unsettled.symm.trans ended

theorem createOutflow_keeps {tid attemptNumber : Nat} {disbursement : Loaded} {w : World} :
    Keeps (contract tid) (fun id => Attempt id disbursement.id ⟨attemptNumber, disbursement.id⟩)
      (createOutflow disbursement attemptNumber) w := by
  apply commit_meets
  intro t moved orderly _ i allowed
  refine ⟨still tid _ i t, fun _ => trivial, fun _ _ => trivial, fun id t' succeeds done => ?_⟩
  change undisturbed (.createOutflow disbursement.id) i t = true at allowed
  obtain ⟨free, unsettled⟩ : idle disbursement.id t = true ∧ unsettled disbursement.id t = true := by
    simpa [undisturbed, succeeds] using allowed
  obtain ⟨-, done⟩ := unless_ok.mp done
  obtain ⟨-, done⟩ := unless_ok.mp done
  obtain ⟨rfl, rfl⟩ := Prod.mk.inj (Except.ok.inj done)
  refine ⟨orderly_create orderly free unsettled, ⟨fun other _ => .of_view rfl fun _ _ => rfl,
    Persists.create t _,
    ⟨fun _ outflow found _ => ⟨outflow, concat_of_row found, rfl⟩, fun _ row found _ => ⟨row, found, rfl⟩⟩⟩,
    fun _ => ?_, fun _ => trivial⟩
  exact ⟨_, List.getElem?_concat_length, rfl, rfl⟩

/-- The provider's books are no part of the records. -/
theorem transfer_keeps {tid : Nat} (reference : OutflowReference) (state : TransferState)
    (label : Access) (i : Answer) {w : World} (orderly : (contract tid).inv w)
    (known : state ≠ .absent) :
    let w' := { w with transfers := Function.update w.transfers reference state }
    (contract tid).inv w' ∧ (contract tid).guar label i w w' := by
  refine ⟨fun disbursementId => ?_, fun other _ => .of_view rfl fun _ _ => rfl,
    Persists.book w reference known,
    ⟨fun _ outflow found _ => ⟨outflow, found, rfl⟩, fun _ row found _ => ⟨row, found, rfl⟩⟩⟩
  obtain ⟨single, settles, closed⟩ := orderly disbursementId
  exact ⟨single, settles, closed⟩

theorem initiateTransfer_keeps {tid : Nat} {reference : OutflowReference} {w : World} :
    Keeps (contract tid) (fun _ t => t.transfers reference ≠ .absent)
      (initiateTransfer reference) w := by
  rw [Keeps, initiateTransfer, Proc.meets_access]
  intro t _ orderly _ i _
  cases i.fails with
  | true => exact ⟨orderly, still tid _ i t, trivial⟩
  | false =>
    simp only [Bool.false_eq_true, if_false]
    by_cases absent : t.transfers reference = .absent
    · obtain ⟨orderly', guar⟩ := transfer_keeps reference .accepted (.initiateTransfer reference) i
        orderly (by decide)
      simp only [absent, if_true]
      refine ⟨orderly', guar, ?_⟩
      cases i.lost <;> simp
    · simp only [absent, if_false]
      refine ⟨orderly, still tid _ i t, ?_⟩
      cases i.lost <;> simp [absent]

/-- A claim is kept, with what it stands for. -/
theorem settling_claimed {tid id : Nat} {w t : World} (moved : (contract tid).rely w t)
    (orderly : (contract tid).inv t) (claimed : settler w id = some tid) :
    settler t id = some tid ∧ unsettled id t = true ∧ Quiet id t := by
  have mine : settler t id = some tid := (moved.1.kept id claimed).1
  refine ⟨mine, ?_, (orderly id).settles (by simp [mine])⟩
  by_contra ended
  cases mine.symm.trans (settler_of_ended (eq_false_of_ne_true ended))

theorem hasStatus_final {id : Nat} {status : DisbursementStatus} {s t : World} (final : Final s t)
    (terminal : status.terminal = true) (has : hasStatus id status s = true) :
    hasStatus id status t = true := by
  obtain ⟨row, found, same⟩ := (Option.any_eq_true ..).mp has
  have same := of_decide_eq_true same
  obtain ⟨row', found', kept⟩ := final.disbursement id row found (same ▸ terminal)
  rw [hasStatus, found', Option.any_some, kept, same]
  exact decide_eq_true rfl

/-- The disbursement of a payment is marked once more at most. -/
theorem markSuccessful_keeps {tid id : Nat} {w : World}
    (paid : settler w id = some tid ∨ hasStatus id .successful w = true) :
    Keeps (contract tid) (fun _ _ => True) (markSuccessful id) w := by
  refine settlement_keeps (fun t moved orderly => ?_) fun i t a t' moved orderly done => ?_
  · rcases paid with claimed | paid
    · obtain ⟨mine, _, quiet⟩ := settling_claimed moved orderly claimed
      exact ⟨fun other different => by simp [mine, different], quiet⟩
    · have ended := ended_of_status rfl (hasStatus_final moved.2.2 rfl paid)
      exact ⟨fun other _ => by simp [settler_of_ended ended], (orderly id).closed ended⟩
  · obtain ⟨t'', updated, -, rfl⟩ := map_pair_ok.mp done
    obtain ⟨before, found, rfl⟩ := updateDisbursement_ok.mp updated
    refine .inr ⟨before, _, found, ?_, rfl⟩
    rcases paid with claimed | paid
    · obtain ⟨_, going, _⟩ := settling_claimed moved orderly claimed
      exact .inl (by simpa [unsettled, found] using going)
    · have paid := hasStatus_final moved.2.2 rfl paid
      exact .inr (by simpa [hasStatus, found, eq_comm] using paid)

theorem records_rules (tid : Nat) :
    Rules tid (contract tid) (fun _ _ => True)
      (fun disbursementId w => settler w disbursementId = some tid ∨
        hasStatus disbursementId .successful w = true)
      fun disbursementId w => settler w disbursementId = some tid where
  rely _ _ moved := moved.2.1
  own _ _ _ _ wrote := wrote.2.1
  still label i w _ := still tid label i w
  target _ _ _ _ _ := trivial
  createOutflow _ _ _ _ := createOutflow_keeps
  initiateTransfer _ _ _ _ _ := initiateTransfer_keeps
  markInitiated outflowId disbursementId reference providerTxId w here _ := by
    refine outflowWrite_keeps (fun i outflow => { outflow with
        providerTxId := some providerTxId, status := .processing, initiatedAt := some i.now })
      (fun _ t => t.settling) here (fun i t t' done => ?_) (fun _ _ => ⟨rfl, rfl, rfl⟩)
      (fun _ _ => .inl rfl) fun _ _ _ _ _ _ _ => trivial
    obtain ⟨t'', updated, -, rfl⟩ := map_pair_ok.mp done
    exact updateOutflow_ok.mp updated
  markOutflowSuccessful id disbursementId _ providerTxId w here _ := by
    have wrote : Keeps (contract tid) (fun _ t => settler t disbursementId = some tid ∨
        OutflowStatus.successful = .successful ∧ hasStatus disbursementId .successful t = true)
        (markOutflowSuccessful tid id disbursementId providerTxId) w :=
      settlingWrite_keeps here (fun _ _ => ⟨rfl, rfl, rfl⟩) rfl
    exact wrote.imp (fun _ _ kept => kept.imp_right And.right) fun _ _ h => h
  markOutflowFailed id disbursementId _ failureReason failureCode w here := by
    have wrote : Keeps (contract tid) (fun _ t => settler t disbursementId = some tid ∨
        OutflowStatus.failed = .successful ∧ hasStatus disbursementId .successful t = true)
        (markOutflowFailed tid id disbursementId failureReason failureCode) w :=
      settlingWrite_keeps here (fun _ _ => ⟨rfl, rfl, rfl⟩) rfl
    refine wrote.imp (fun _ t kept => ?_) fun _ _ h => h
    rcases kept with claimed | ⟨impossible, _⟩
    · exact claimed
    · cases impossible
  markSuccessful _ _ paid := markSuccessful_keeps paid
  updateUnlessOnHold disbursementId failureReason w claimed := by
    refine settlement_keeps (fun t moved orderly => ?_) fun i t a t' moved orderly done => ?_
    · obtain ⟨mine, _, quiet⟩ := settling_claimed moved orderly claimed
      exact ⟨fun other different => by simp [mine, different], quiet⟩
    · obtain rfl : _ = t' := congrArg Prod.snd (Except.ok.inj done)
      obtain ⟨_, going, _⟩ := settling_claimed moved orderly claimed
      refine (holdRow_marked disbursementId failureReason i.now t).imp id ?_
      rintro ⟨before, after, found, _, same⟩
      exact ⟨before, after, found, .inl (by simpa [unsettled, found] using going), same⟩
  markOnHoldAlerted disbursementId w :=
    disbursementWrite_keeps fun _ _ _ _ _ _ => .inl rfl
  markProcessing disbursementId w := by
    refine disbursementWrite_keeps fun i t before allowed succeeds found =>
      .inr ⟨?_, fun wrong => nomatch wrong⟩
    simpa [undisturbed, unsettled, succeeds, found] using allowed
  markCancelled disbursementId opsUserId reason w := by
    refine disbursementWrite_keeps fun i t before allowed succeeds found => ?_
    have cases : (idle disbursementId t = true ∧ before.status.terminal = false) ∨
        before.status = .cancelled := by
      simpa [undisturbed, unsettled, hasStatus, succeeds, found] using allowed
    rcases cases with ⟨free, going⟩ | same
    · exact .inr ⟨going, fun _ => free⟩
    · exact .inl same.symm

/-- Every operation follows the rules, if the provider's step does. -/
theorem keeps_of_rules {tid : Nat} {c : Contract World Answer Access}
    {Paid Held : Nat → World → Prop} (rules : Rules tid c (fun _ _ => True) Paid Held)
    (settles : ∀ reference completes w,
      Keeps c (fun _ _ => True) (settleTransfer reference completes) w) (op : Operation) (w : World) :
    Keeps c (fun _ _ => True) (procedure tid op) w := by
  cases op with
  | dispatch disbursementId => exact rules.dispatch disbursementId w trivial
  | retryDispatch disbursementId => exact rules.retryDispatch disbursementId w fun _ => trivial
  | retry disbursementId => exact rules.retry disbursementId w fun _ => trivial
  | cancel disbursementId opsUserId reason => exact rules.cancel disbursementId opsUserId reason w
  | abandonAttempt disbursementId reason => exact rules.abandonAttempt disbursementId reason w
  | payoutWebhook parsed =>
    rw [Keeps, procedure, Proc.meets_bind]
    exact (rules.payoutWebhook parsed w).imp (fun _ _ _ => trivial) fun _ _ h => h
  | runReconcilerCycle => exact rules.runReconcilerCycle w
  | settleTransfer reference completes => exact settles reference completes w

theorem settleTransfer_keeps (tid : Nat) (reference : OutflowReference) (completes : Bool) (w : World) :
    Keeps (contract tid) (fun _ _ => True) (settleTransfer reference completes) w := by
  rw [Keeps, settleTransfer, Proc.meets_access]
  intro t _ orderly _ i _
  obtain ⟨orderly', guar⟩ := transfer_keeps reference (if completes then .completed else .failed)
    (.settleTransfer reference) i orderly (by cases completes <;> decide)
  exact ⟨orderly', guar, trivial⟩

theorem procedure_keeps (tid : Nat) (op : Operation) (w : World) :
    Keeps (contract tid) (fun _ _ => True) (procedure tid op) w :=
  keeps_of_rules (records_rules tid) (settleTransfer_keeps tid) op w

structure Opened (w : World) : Prop where
  outflows : w.outflows = []
  settling : ∀ disbursementId, w.settling disbursementId = none

theorem Opened.orderly {w : World} (opened : Opened w) (disbursementId : Nat) :
    Orderly disbursementId w := by
  have quiet : Quiet disbursementId w := fun id outflow found => by
    simp [opened.outflows] at found
  refine ⟨fun a _ first _ found => ?_, fun _ => quiet, fun _ => quiet⟩
  simp [opened.outflows] at found

/-- In a run whose writes are undisturbed, payout records are final from any point on. -/
theorem payout_records_final {w₀ : World} {trace : List (Nat × Event World Answer Access)}
    {c : Config World Answer Access AppError Unit} (opened : Opened w₀)
    (run : Runs procedure w₀ trace c)
    (writes : ∀ e ∈ trace, undisturbed e.2.label e.2.answer e.2.before = true) :
    ∀ first rest, trace = first ++ rest → Final (stateAfter w₀ first) c.shared := by
  have held := run.holds records_sound (fun _ _ _ _ _ _ => trivial) (fun _ _ _ _ _ _ => trivial)
    opened.orderly (fun _ => trivial) (fun tid op w _ _ => procedure_keeps tid op w) writes
  intro first rest split
  apply run.keeps (fun w => Final (stateAfter w₀ first) w) ?_ split (Final.refl _)
  exact fun e member final => final.trans (held.events e member).2.2.2.2

def newDisbursement : Disbursement where
  userId := 0
  sourceId := 0
  amount := 100000
  providerName := "GTBank"
  providerCode := some "058"
  accountUnique := "0123456789"
  accountName := none

def oneDisbursement : World where
  disbursements := [newDisbursement]

theorem oneDisbursement_opened : Opened oneDisbursement := ⟨rfl, fun _ => rfl⟩

def firstReference : OutflowReference := ⟨1, 0⟩

def notification : Operation := .payoutWebhook (some ⟨firstReference, some "tx", 2, none⟩)

/-- The transfer completes and its webhook arrives before the dispatch has recorded it. -/
def webhookBeforeRecord : List (Choice Operation Answer) :=
  [.start (.dispatch 0), .run 0 {}, .run 0 {}, .run 0 {}, .run 0 {},
    .start (.settleTransfer firstReference true), .run 1 {},
    .start notification, .run 2 {}, .run 2 {}, .run 2 {}, .run 2 {}, .run 0 {}]

theorem payout_records_not_final : ∃ trace c, Opened oneDisbursement ∧
    Runs procedure oneDisbursement trace c ∧
    ¬ ∀ first rest, trace = first ++ rest → Final (stateAfter oneDisbursement first) c.shared := by
  have played := exists_run procedure oneDisbursement webhookBeforeRecord
    (fun trace c => decide (
      ((stateAfter oneDisbursement (trace.take 8)).outflows.map (·.status)) = [.successful] ∧
      (c.shared.outflows.map (·.status)) = [.processing])) (by decide +kernel)
  obtain ⟨trace, c, run, checked⟩ := played
  obtain ⟨before, after⟩ := of_decide_eq_true checked
  refine ⟨trace, c, oneDisbursement_opened, run, fun final => ?_⟩
  obtain ⟨outflow, _, rows, status, _⟩ := List.map_eq_cons_iff.mp before
  obtain ⟨outflow', found, same⟩ := (final (trace.take 8) (trace.drop 8)
    (List.take_append_drop 8 trace).symm).outflow 0 outflow (by simp [rows]) (by simp [status]; rfl)
  have last : (c.shared.outflows.map (·.status))[0]? = some outflow'.status := by simp [found]
  rw [after, same, status] at last
  cases last

/-- A first attempt that the provider fails, a retry that it completes, and a cancellation
that comes too late. -/
def retriedThenCancelled : List (Choice Operation Answer) :=
  [.start (.dispatch 0), .run 0 {}, .run 0 {}, .run 0 {}, .run 0 {}, .run 0 {},
    .start (.settleTransfer firstReference false), .run 1 {},
    .start notification, .run 2 {}, .run 2 {}, .run 2 {}, .run 2 {}, .run 2 {}, .run 2 {},
    .start (.retry 0), .run 3 {}, .run 3 {}, .run 3 {}, .run 3 {}, .run 3 {}, .run 3 {}, .run 3 {},
    .start (.settleTransfer ⟨2, 0⟩ true), .run 4 {},
    .start .runReconcilerCycle, .run 5 { now := 400000 }, .run 5 {}, .run 5 {}, .run 5 {},
    .run 5 {}, .run 5 {}, .run 5 {}, .start (.cancel 0 7 "late"), .run 6 {}]

theorem payout_records_final_retry : ∃ trace c, Runs procedure oneDisbursement trace c ∧
    (c.shared.outflows.map (·.status)) = [.failed, .successful] ∧
    (c.shared.disbursements.map (·.status)) = [.successful] ∧
    ∀ first rest, trace = first ++ rest → Final (stateAfter oneDisbursement first) c.shared := by
  have played := exists_run procedure oneDisbursement retriedThenCancelled
    (fun trace c => decide ((c.shared.outflows.map (·.status)) = [.failed, .successful] ∧
      (c.shared.disbursements.map (·.status)) = [.successful] ∧
      ∀ e ∈ trace, undisturbed e.2.label e.2.answer e.2.before = true)) (by decide +kernel)
  obtain ⟨trace, c, run, checked⟩ := played
  obtain ⟨attempts, paid, writes⟩ := of_decide_eq_true checked
  exact ⟨trace, c, run, attempts, paid,
    payout_records_final oneDisbursement_opened run writes⟩

end Bitmonie.PayoutRecords
