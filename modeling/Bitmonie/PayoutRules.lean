import Bitmonie.Payout

/-! Contracts of payouts. A contract that is met by each write of an outflow, of a
disbursement and of the provider's books is met by every operation that is made of
them. -/
namespace Bitmonie.PayoutRules
open DisbursementsService DisbursementProvider OutflowsService OpsDisbursementsService

def Attempt (outflowId disbursementId : Nat) (reference : OutflowReference) (w : World) : Prop :=
  ∃ outflow, w.outflows[outflowId]? = some outflow ∧ outflow.disbursementId = disbursementId ∧
    outflow.providerReference = reference

/-- Outflows stay where they are, under their reference; transfers are not forgotten. -/
structure Persists (s t : World) : Prop where
  outflow : ∀ (id : Nat) (outflow : Outflow), s.outflows[id]? = some outflow →
    ∃ outflow', t.outflows[id]? = some outflow' ∧
      outflow'.disbursementId = outflow.disbursementId ∧
      outflow'.providerReference = outflow.providerReference
  transfer : ∀ reference, s.transfers reference ≠ .absent → t.transfers reference ≠ .absent

theorem Persists.refl (w : World) : Persists w w :=
  ⟨fun _ outflow found => ⟨outflow, found, rfl, rfl⟩, fun _ known => known⟩

theorem Persists.trans {r s t : World} (first : Persists r s) (second : Persists s t) :
    Persists r t where
  outflow id outflow found := by
    obtain ⟨outflow', found', owner, reference⟩ := first.outflow id outflow found
    obtain ⟨outflow'', found'', owner', reference'⟩ := second.outflow id outflow' found'
    exact ⟨outflow'', found'', owner'.trans owner, reference'.trans reference⟩
  transfer reference known := second.transfer reference (first.transfer reference known)

/-- Writes that touch neither outflows nor transfers. -/
theorem Persists.of_eq {s t : World} (outflows : t.outflows = s.outflows)
    (transfers : t.transfers = s.transfers) : Persists s t where
  outflow id outflow found := ⟨outflow, by rw [outflows, found], rfl, rfl⟩
  transfer reference known := by rwa [transfers]

/-- An update of an outflow, and of claims on settlements. -/
theorem Persists.set {w : World} {id : Nat} {before after : Outflow}
    (found : w.outflows[id]? = some before) (owner : after.disbursementId = before.disbursementId)
    (reference : after.providerReference = before.providerReference) (claims : Nat → Option Nat) :
    Persists w { w with outflows := w.outflows.set id after, settling := claims } where
  outflow other outflow present := by
    by_cases same : id = other
    · subst same
      obtain rfl := Option.some.inj (found.symm.trans present)
      exact ⟨after, getElem?_set_of_eq found, owner, reference⟩
    · exact ⟨outflow, (List.getElem?_set_ne same).trans present, rfl, rfl⟩
  transfer _ known := known

theorem Persists.create (w : World) (created : Outflow) :
    Persists w { w with outflows := w.outflows ++ [created] } where
  outflow _ outflow found := ⟨outflow, concat_of_row found, rfl, rfl⟩
  transfer _ known := known

theorem Persists.book (w : World) (reference : OutflowReference) {state : TransferState}
    (known : state ≠ .absent) :
    Persists w { w with transfers := Function.update w.transfers reference state } where
  outflow _ outflow found := ⟨outflow, found, rfl, rfl⟩
  transfer other before := by
    by_cases same : other = reference
    · simpa [same] using known
    · simpa [same] using before

theorem Attempt.mono {outflowId disbursementId : Nat} {reference : OutflowReference}
    {s t : World} (persists : Persists s t) (here : Attempt outflowId disbursementId reference s) :
    Attempt outflowId disbursementId reference t := by
  obtain ⟨outflow, found, owner, same⟩ := here
  obtain ⟨outflow', found', owner', same'⟩ := persists.outflow outflowId outflow found
  exact ⟨outflow', found', owner'.trans owner, same'.trans same⟩

theorem attempt_of_findRows {w : World} {p : Outflow → Bool} {outflow : Nat × Outflow}
    (member : outflow ∈ findRows w.outflows p) :
    Attempt outflow.1 outflow.2.disbursementId outflow.2.providerReference w :=
  ⟨outflow.2, (mem_findRows.mp member).1, rfl, rfl⟩

def Attempts (rows : List (Nat × Outflow)) (w : World) : Prop :=
  ∀ outflow ∈ rows, Attempt outflow.1 outflow.2.disbursementId outflow.2.providerReference w

/-- `p.Keeps c post w`: it meets the contract, and if it returns it ends in `post`. -/
abbrev Keeps (c : Contract World Answer Access) (post : α → World → Prop) (p : Action α)
    (w : World) : Prop :=
  p.Meets c post (fun _ _ => True) w

/-- The second write of a settlement ends it, also when it fails. -/
theorem closing_keeps {c : Contract World Answer Access} {id : Nat} {label : Access}
    {f : Answer → World → Except AppError (α × World)} {w : World}
    (write : ∀ t, c.rely w t → c.inv t → ∀ i,
      let ended (w : World) : World := { w with settling := Function.update w.settling id none }
      (c.inv (ended t) ∧ c.guar label i t (ended t)) ∧
        ∀ a t', f i t = .ok (a, t') → c.inv (ended t') ∧ c.guar label i t (ended t')) :
    Keeps c (fun _ _ => True) (closing id label f) w := by
  rw [Keeps, closing, Proc.meets_access]
  intro t moved inv _ i _
  obtain ⟨⟨inv', guar⟩, wrote⟩ := write t moved inv i
  cases i.fails with
  | true => exact ⟨inv', guar, trivial⟩
  | false =>
    simp only [Bool.false_eq_true, if_false]
    cases result : f i t with
    | error e => exact ⟨inv', guar, trivial⟩
    | ok done =>
      obtain ⟨invₜ, guarₜ⟩ := wrote done.1 done.2 result
      refine ⟨invₜ, guarₜ, ?_⟩
      cases i.lost <;> trivial

def Idle (label : Access) : Prop := label = .read ∨ label = .audit ∨ label = .redis

/-- The rules of one procedure's accesses. `Target` is what an attempt needs to know of its
disbursement; `Paid` and `Held` are what the first write of a payment and of a failure leave
for the second. -/
structure Rules (tid : Nat) (c : Contract World Answer Access)
    (Target Paid Held : Nat → World → Prop) : Prop where
  rely : ∀ s t, c.rely s t → Persists s t
  own : ∀ label i s t, c.guar label i s t → Persists s t
  still : ∀ label i w, Idle label → c.guar label i w w
  target : ∀ disbursementId s t, c.rely s t → Target disbursementId s → Target disbursementId t
  createOutflow : ∀ disbursement attemptNumber w, Target disbursement.id w →
    Keeps c (fun id => Attempt id disbursement.id ⟨attemptNumber, disbursement.id⟩)
      (createOutflow disbursement attemptNumber) w
  initiateTransfer : ∀ outflowId disbursementId reference w,
    Attempt outflowId disbursementId reference w →
    Keeps c (fun _ t => t.transfers reference ≠ .absent) (initiateTransfer reference) w
  markInitiated : ∀ outflowId disbursementId reference providerTxId w,
    Attempt outflowId disbursementId reference w → w.transfers reference ≠ .absent →
    Keeps c (fun _ _ => True) (markInitiated outflowId providerTxId) w
  markOutflowSuccessful : ∀ outflowId disbursementId reference providerTxId w,
    Attempt outflowId disbursementId reference w → w.transfers reference ≠ .absent →
    Keeps c (fun _ => Paid disbursementId)
      (markOutflowSuccessful tid outflowId disbursementId providerTxId) w
  markOutflowFailed : ∀ outflowId disbursementId reference failureReason failureCode w,
    Attempt outflowId disbursementId reference w →
    Keeps c (fun _ => Held disbursementId)
      (markOutflowFailed tid outflowId disbursementId failureReason failureCode) w
  markSuccessful : ∀ disbursementId w, Paid disbursementId w →
    Keeps c (fun _ _ => True) (markSuccessful disbursementId) w
  updateUnlessOnHold : ∀ disbursementId failureReason w, Held disbursementId w →
    Keeps c (fun _ _ => True) (updateUnlessOnHold disbursementId failureReason) w
  markOnHoldAlerted : ∀ disbursementId w,
    Keeps c (fun _ _ => True) (markOnHoldAlerted disbursementId) w
  markProcessing : ∀ disbursementId w, Keeps c (fun _ _ => True) (markProcessing disbursementId) w
  markCancelled : ∀ disbursementId opsUserId reason w,
    Keeps c (fun _ _ => True) (markCancelled disbursementId opsUserId reason) w

namespace Rules
variable {tid : Nat} {c : Contract World Answer Access} {Target Paid Held : Nat → World → Prop}

theorem query (rules : Rules tid c Target Paid Held) {f : Answer → World → Except AppError α} {w : World}
    {post : α → World → Prop}
    (read : ∀ t i a, c.rely w t → f i t = .ok a → post a t) : Keeps c post (query f) w :=
  query_meets fun t moved _ i _ => ⟨rules.still .read i t (.inl rfl), trivial, fun _ _ => trivial,
    fun a result => read t i a moved result⟩

theorem idle (rules : Rules tid c Target Paid Held) {label : Access} (idle : Idle label) (w : World) :
    Keeps c (fun _ _ => True) (commit label (fun _ => true) fun _ w => .ok ((), w)) w := by
  apply commit_meets
  intro t _ inv _ i _
  have still := rules.still label i t idle
  refine ⟨still, fun _ => trivial, fun _ _ => trivial, fun _ t' _ done => ?_⟩
  obtain ⟨_, rfl⟩ := Prod.mk.inj (Except.ok.inj done)
  exact ⟨inv, still, fun _ => trivial, fun _ => trivial⟩

theorem audit (rules : Rules tid c Target Paid Held) (w : World) :
    Keeps c (fun _ _ => True) auditWrite w := rules.idle (.inr (.inl rfl)) w

/-- The attempt that is worked on is there throughout. -/
theorem attempt (rules : Rules tid c Target Paid Held) {p : Action α} {post : α → World → Prop}
    {outflowId disbursementId : Nat} {reference : OutflowReference} {w : World}
    (keeps : Keeps c post p w) (here : Attempt outflowId disbursementId reference w) :
    p.Meets c (fun a t => post a t ∧ Attempt outflowId disbursementId reference t)
      (fun _ => Attempt outflowId disbursementId reference) w :=
  (keeps.frame (fun s t moved => Attempt.mono (rules.rely s t moved))
    (fun label i s t wrote => Attempt.mono (rules.own label i s t wrote)) here).imp
    (fun _ _ ended => ended) fun _ _ ended => ended.2

theorem attempts (rules : Rules tid c Target Paid Held) {p : Action α} {post : α → World → Prop}
    {rows : List (Nat × Outflow)} {w : World} (keeps : Keeps c post p w)
    (here : Attempts rows w) :
    p.Meets c (fun a t => post a t ∧ Attempts rows t) (fun _ => Attempts rows) w :=
  (keeps.frame
    (fun s t moved rows outflow member => (rows outflow member).mono (rules.rely s t moved))
    (fun label i s t wrote rows outflow member =>
      (rows outflow member).mono (rules.own label i s t wrote)) here).imp
    (fun _ _ ended => ended) fun _ _ ended => ended.2

theorem markOnHoldAndMaybeAlert (rules : Rules tid c Target Paid Held) {disbursementId : Nat}
    {failureReason : String} {w : World} (held : Held disbursementId w) :
    Keeps c (fun _ _ => True) (markOnHoldAndMaybeAlert disbursementId failureReason) w := by
  rw [Keeps, OutflowsService.markOnHoldAndMaybeAlert, Proc.meets_bind, markOnHold, Proc.meets_bind]
  apply (rules.updateUnlessOnHold disbursementId failureReason w held).imp _ fun _ _ h => h
  intro first t _
  cases first with
  | false =>
    simp only [Bool.false_eq_true, if_false, Proc.meets_bind]
    exact rules.query fun _ _ _ _ _ => trivial
  | true =>
    simp only [if_true, Proc.meets_pure, Proc.meets_bind]
    apply rules.query
    intro u _ fresh _ _
    cases fresh with
    | none => trivial
    | some _ => exact rules.markOnHoldAlerted disbursementId u

theorem handleFailure (rules : Rules tid c Target Paid Held) {outflowId disbursementId : Nat}
    {reference : OutflowReference} {failureReason : String} {failureCode : Option String}
    {w : World} (here : Attempt outflowId disbursementId reference w) :
    Keeps c (fun _ _ => True)
      (handleFailure tid outflowId disbursementId failureReason failureCode) w := by
  rw [Keeps, OutflowsService.handleFailure, Proc.meets_bind]
  apply (rules.markOutflowFailed outflowId disbursementId reference failureReason failureCode w
    here).imp _ fun _ _ h => h
  exact fun _ _ held => rules.markOnHoldAndMaybeAlert held

theorem handleSuccess (rules : Rules tid c Target Paid Held) {outflowId disbursementId : Nat}
    {reference : OutflowReference} {providerTxId : String} {w : World}
    (here : Attempt outflowId disbursementId reference w)
    (known : w.transfers reference ≠ .absent) :
    Keeps c (fun _ _ => True) (handleSuccess tid outflowId disbursementId providerTxId) w := by
  rw [Keeps, OutflowsService.handleSuccess, Proc.meets_bind]
  apply (rules.markOutflowSuccessful outflowId disbursementId reference providerTxId w here
    known).imp _ fun _ _ h => h
  intro _ t paid
  rw [Proc.meets_bind]
  apply (rules.markSuccessful disbursementId t paid).imp _ fun _ _ h => h
  intro _ u _
  rw [Proc.meets_bind]
  apply rules.query
  intro _ _ fresh _ _
  cases fresh with
  | none => trivial
  | some _ => exact rules.query fun _ _ _ _ _ => trivial

/-- The body of the `try` may throw anywhere; the attempt is there for the `catch`. -/
theorem initiate (rules : Rules tid c Target Paid Held) {disbursement : Loaded} {outflowId : Nat}
    {reference : OutflowReference} {w : World}
    (here : Attempt outflowId disbursement.id reference w) :
    (initiate disbursement reference outflowId).Meets c (fun _ _ => True)
      (fun _ => Attempt outflowId disbursement.id reference) w := by
  unfold OutflowsService.initiate
  split
  · exact here
  · rw [Proc.meets_bind]
    apply (rules.attempt (rules.initiateTransfer outflowId disbursement.id reference w here)
      here).imp
    · rintro providerTxId t ⟨known, here⟩
      exact (rules.attempt (rules.markInitiated outflowId disbursement.id reference providerTxId t
        here known) here).imp (fun _ _ _ => trivial) fun _ _ here => here
    · exact fun _ _ here => here

theorem executeDispatch (rules : Rules tid c Target Paid Held) (disbursement : Loaded)
    (attemptNumber : Nat) (w : World) (target : Target disbursement.id w) :
    Keeps c (fun _ _ => True) (executeDispatch tid disbursement attemptNumber) w := by
  rw [Keeps, OutflowsService.executeDispatch, Proc.meets_bind]
  apply (rules.createOutflow disbursement attemptNumber w target).imp _ fun _ _ h => h
  intro outflowId t here
  rw [Proc.meets_bind]
  apply (rules.attempt (rules.markProcessing disbursement.id t) here).imp _ fun _ _ _ => trivial
  rintro _ u ⟨_, here⟩
  rw [Proc.meets_bind]
  cases DisbursementRouter.forRoute disbursement.row.currency disbursement.row.disbursementRail with
  | error e => trivial
  | ok provider =>
    simp only [Proc.ofExcept, Proc.meets_pure, Proc.meets_catching]
    apply (rules.initiate here).imp (fun _ _ h => h)
    intro e v here
    rw [initiationFailed, Proc.meets_bind]
    apply (rules.markOutflowFailed outflowId disbursement.id _ e.message none v here).imp _
      fun _ _ h => h
    exact fun _ _ held => rules.markOnHoldAndMaybeAlert held

theorem loaded_id {disbursementId : Nat} {w : World} {disbursement : Loaded}
    (loaded : findById disbursementId w = some disbursement) : disbursement.id = disbursementId := by
  obtain ⟨row, _, rfl⟩ := Option.map_eq_some_iff.mp loaded
  rfl

theorem dispatch (rules : Rules tid c Target Paid Held) (disbursementId : Nat) (w : World)
    (target : Target disbursementId w) :
    Keeps c (fun _ _ => True) (dispatch tid disbursementId) w := by
  rw [Keeps, OutflowsService.dispatch, Proc.meets_bind]
  apply rules.query
  intro t _ loaded moved read
  cases loaded with
  | none => trivial
  | some disbursement =>
    dsimp only
    split
    · trivial
    split
    · trivial
    apply rules.executeDispatch disbursement _ t
    rw [loaded_id (Except.ok.inj read)]
    exact rules.target disbursementId w t moved target

theorem retryDispatch (rules : Rules tid c Target Paid Held) (disbursementId : Nat) (w : World)
    (target : ∀ t, Target disbursementId t) :
    Keeps c (fun _ _ => True) (retryDispatch tid disbursementId) w := by
  rw [Keeps, OutflowsService.retryDispatch, Proc.meets_bind]
  apply rules.query
  intro t _ loaded _ read
  cases loaded with
  | none => trivial
  | some disbursement =>
    dsimp only
    split
    · trivial
    apply rules.executeDispatch disbursement _ t
    rw [loaded_id (Except.ok.inj read)]
    exact target t

theorem retry (rules : Rules tid c Target Paid Held) (disbursementId : Nat) (w : World)
    (target : ∀ t, Target disbursementId t) :
    Keeps c (fun _ _ => True) (retry tid disbursementId) w := by
  rw [Keeps, OpsDisbursementsService.retry, Proc.meets_bind]
  apply rules.query
  intro t _ _ _ _
  rw [Proc.meets_bind]
  apply (rules.audit t).imp _ fun _ _ h => h
  exact fun _ u _ => rules.retryDispatch disbursementId u target

theorem cancel (rules : Rules tid c Target Paid Held) (disbursementId opsUserId : Nat) (reason : String)
    (w : World) : Keeps c (fun _ _ => True) (cancel disbursementId opsUserId reason) w := by
  rw [Keeps, OpsDisbursementsService.cancel, Proc.meets_bind]
  apply rules.query
  intro t _ existing _ _
  split
  · trivial
  · exact rules.markCancelled disbursementId opsUserId reason t

/-- Rows that were read before a loop are there at each of its turns. -/
theorem eachAttempt (rules : Rules tid c Target Paid Held) {rows : List (Nat × Outflow)}
    {body : Nat × Outflow → Action Unit} {w : World} (here : Attempts rows w)
    (turn : ∀ outflow ∈ rows, ∀ t,
      Attempt outflow.1 outflow.2.disbursementId outflow.2.providerReference t →
        Keeps c (fun _ _ => True) (body outflow) t) :
    Keeps c (fun _ _ => True) (Proc.each rows body) w := by
  have looped : (Proc.each rows body).Meets c (fun _ => Attempts rows) (fun _ _ => True) w :=
    Proc.meets_each here fun outflow member t kept =>
      (rules.attempts (turn outflow member t (kept outflow member)) kept).imp
        (fun _ _ ended => ended.2) fun _ _ _ => trivial
  exact looped.imp (fun _ _ _ => trivial) fun _ _ h => h

theorem abandonAttempt (rules : Rules tid c Target Paid Held) (disbursementId : Nat) (reason : String)
    (w : World) : Keeps c (fun _ _ => True) (abandonAttempt tid disbursementId reason) w := by
  rw [Keeps, OpsDisbursementsService.abandonAttempt, Proc.meets_bind]
  apply rules.query
  intro t _ existing _ read
  split
  · trivial
  dsimp only
  split
  · trivial
  obtain ⟨row, _, rfl⟩ : ∃ row, t.disbursements[disbursementId]? = some row ∧
      existing = ⟨disbursementId, row, outflowsOf disbursementId t⟩ := by
    unfold findById at read
    cases found : t.disbursements[disbursementId]? with
    | none => simp [found] at read
    | some row => exact ⟨row, rfl, by simpa [found, eq_comm] using read⟩
  have here : Attempts ((outflowsOf disbursementId t).filter
      fun outflow => outflow.2.status.inFlight) t := fun outflow member =>
    attempt_of_findRows (List.mem_filter.mp member).1
  rw [Proc.meets_bind]
  apply (rules.attempts (rules.audit t) here).imp _ fun _ _ _ => trivial
  rintro _ u ⟨_, hereᵤ⟩
  apply rules.eachAttempt hereᵤ
  intro outflow member v attempt
  have owner : outflow.2.disbursementId = disbursementId := by
    simpa using (mem_findRows.mp (List.mem_filter.mp member).1).2
  rw [owner] at attempt
  exact rules.handleFailure attempt

/-- What the provider reports as successful, it holds. -/
theorem known_of_reported {i : Answer} {transfer : TransferState} {verified : TransferStatus}
    (reported : transferStatus i transfer = verified) (successful : verified.status = .successful) :
    transfer ≠ .absent := by
  rintro rfl
  rw [← reported] at successful
  cases successful

theorem payoutWebhook (rules : Rules tid c Target Paid Held)
    (parsed : Option PalmpayPayoutWebhook.PayoutNotification) (w : World) :
    Keeps c (fun _ _ => True) (PalmpayPayoutWebhook.handle tid parsed) w := by
  unfold Keeps PalmpayPayoutWebhook.handle
  cases parsed with
  | none => trivial
  | some payload =>
    dsimp only
    rw [Proc.meets_bind]
    apply rules.query
    intro t _ found _ read
    cases found with
    | none => trivial
    | some outflow =>
      obtain ⟨row, same⟩ := findRow_some (Except.ok.inj read)
      have here : Attempt outflow.1 outflow.2.disbursementId payload.orderId t :=
        ⟨outflow.2, row, rfl, of_decide_eq_true same⟩
      dsimp only
      split
      · trivial
      rw [Proc.meets_bind, Proc.meets_attempt]
      apply query_meets
      intro u moved _ i _
      have hereᵤ := here.mono (rules.rely t u moved)
      refine ⟨rules.still .read i u (.inl rfl), trivial, fun _ _ => trivial, fun verified read => ?_⟩
      have reported := Except.ok.inj read
      dsimp only
      split
      · rename_i successful
        rw [Proc.meets_bind]
        exact (rules.handleSuccess hereᵤ (known_of_reported reported successful)).imp
          (fun _ _ _ => trivial) fun _ _ h => h
      · rw [Proc.meets_bind]
        exact (rules.handleFailure hereᵤ).imp (fun _ _ _ => trivial) fun _ _ h => h
      · trivial

theorem runReconcilerCycle (rules : Rules tid c Target Paid Held) (w : World) :
    Keeps c (fun _ _ => True) (OutflowReconciler.runReconcilerCycle tid) w := by
  rw [Keeps, OutflowReconciler.runReconcilerCycle, Proc.meets_bind]
  apply rules.query
  intro t i stale _ read
  obtain rfl := Except.ok.inj read
  have here : Attempts (OutflowReconciler.staleOutflows i.now t) t := fun outflow member =>
    attempt_of_findRows ((List.mem_insertionSort _).mp member)
  rw [Proc.meets_bind]
  apply (rules.attempts (rules.idle (.inr (.inr rfl)) t) here).imp _ fun _ _ _ => trivial
  rintro _ u ⟨_, hereᵤ⟩
  apply rules.eachAttempt hereᵤ
  intro outflow _ v attempt
  rw [Keeps, Proc.meets_catching, OutflowReconciler.reconcileOutflow]
  split
  · trivial
  rw [Proc.meets_bind]
  apply query_meets
  intro x moved _ i _
  have hereₓ := attempt.mono (rules.rely v x moved)
  refine ⟨rules.still .read i x (.inl rfl), trivial, fun _ _ => trivial, fun status read => ?_⟩
  have reported := Except.ok.inj read
  split
  · rename_i successful
    exact rules.handleSuccess hereₓ (known_of_reported reported successful)
  · exact rules.handleFailure hereₓ
  · trivial

end Rules

structure Apart (s t : World) : Prop where
  persists : Persists s t
  eq : ∃ outflows disbursements transfers settling, t = { s with
    outflows := outflows, disbursements := disbursements, transfers := transfers
    settling := settling }

theorem Apart.refl (w : World) : Apart w w := ⟨Persists.refl w, _, _, _, _, rfl⟩

theorem apart_of_marked {id : Nat} {s t : World} (marked : Marked id s t) (claims : Nat → Option Nat) :
    Apart s { t with settling := claims } := by
  rcases marked with rfl | ⟨_, _, _, _, rfl⟩
  · exact ⟨.of_eq rfl rfl, _, _, _, _, rfl⟩
  · exact ⟨.of_eq rfl rfl, _, _, _, _, rfl⟩

section Apart
variable {c : Contract World Answer Access} {w : World}

theorem commit_apart {label : Access} {f : Answer → World → Except AppError (α × World)}
    {post : α → World → Prop}
    (apart : ∀ label i s t, Apart s t → c.inv s → c.inv t ∧ c.guar label i s t)
    (writes : ∀ i s a t, f i s = .ok (a, t) → Apart s t ∧ post a t) :
    Keeps c post (commit label (fun _ => true) f) w := by
  apply commit_meets
  intro s _ inv _ i _
  refine ⟨(apart label i s s (.refl s) inv).2, fun _ => trivial, fun _ _ => trivial,
    fun a t _ done => ?_⟩
  obtain ⟨wrote, ends⟩ := writes i s a t done
  obtain ⟨inv', guar⟩ := apart label i s t wrote inv
  exact ⟨inv', guar, fun _ => ends, fun _ => trivial⟩

theorem closing_apart {id : Nat} {label : Access} {f : Answer → World → Except AppError (α × World)}
    (apart : ∀ label i s t, Apart s t → c.inv s → c.inv t ∧ c.guar label i s t)
    (writes : ∀ i s a t, f i s = .ok (a, t) → Marked id s t) :
    Keeps c (fun _ _ => True) (closing id label f) w := by
  apply closing_keeps
  intro s _ inv i ended
  exact ⟨apart label i s _ (@apart_of_marked id s s (.inl rfl) _) inv, fun a t done =>
    apart label i s _ (apart_of_marked (writes i s a t done) _) inv⟩

/-- An update of an outflow that keeps its disbursement and its reference. -/
theorem apart_of_outflow {id : Nat} {data : Outflow → Outflow} {s t : World}
    (same : ∀ before, (data before).disbursementId = before.disbursementId ∧
      (data before).providerReference = before.providerReference)
    (updated : updateOutflow id data s = .ok t) (claims : Nat → Option Nat) :
    Apart s { t with settling := claims } := by
  obtain ⟨before, found, rfl⟩ := updateOutflow_ok.mp updated
  obtain ⟨owner, reference⟩ := same before
  exact ⟨.set found owner reference claims, _, _, _, _, rfl⟩

theorem settlingWrite_apart {tid id disbursementId : Nat} {status : OutflowStatus}
    {data : Answer → Outflow → Outflow}
    (apart : ∀ label i s t, Apart s t → c.inv s → c.inv t ∧ c.guar label i s t)
    (same : ∀ i before, (data i before).disbursementId = before.disbursementId ∧
      (data i before).providerReference = before.providerReference) :
    Keeps c (fun _ _ => True) (commit (.outflowStatus id status) (fun _ => true) fun i w =>
      (updateOutflow id (data i) w).map fun w' => ((), settling tid disbursementId i w')) w := by
  refine commit_apart apart fun i s _ t done => ⟨?_, trivial⟩
  obtain ⟨v, updated, -, rfl⟩ := map_pair_ok.mp done
  obtain ⟨claims, claimed⟩ := settling_claims tid disbursementId i v
  rw [claimed]
  exact apart_of_outflow (same i) updated claims

theorem disbursementWrite_apart {id : Nat} {label : Access} {data : Answer → Disbursement → Disbursement}
    (apart : ∀ label i s t, Apart s t → c.inv s → c.inv t ∧ c.guar label i s t)
    (same : ∀ i row, (data i row).sourceId = row.sourceId) :
    Keeps c (fun _ _ => True) (commit label (fun _ => true) fun i w =>
      (updateDisbursement id (data i) w).map ((), ·)) w :=
  commit_apart apart fun i _ _ t done =>
    ⟨apart_of_marked (updateDisbursement_marked done (same i)) t.settling, trivial⟩

theorem initiateTransfer_apart {reference : OutflowReference}
    (apart : ∀ label i s t, Apart s t → c.inv s → c.inv t ∧ c.guar label i s t) :
    Keeps c (fun _ t => t.transfers reference ≠ .absent) (initiateTransfer reference) w := by
  rw [Keeps, initiateTransfer, Proc.meets_access]
  intro s _ inv _ i _
  have still := apart (.initiateTransfer reference) i s s (.refl s) inv
  cases i.fails with
  | true => exact ⟨inv, still.2, trivial⟩
  | false =>
    simp only [Bool.false_eq_true, if_false]
    by_cases absent : s.transfers reference = .absent
    · simp only [absent, if_true]
      obtain ⟨inv', guar⟩ := apart (.initiateTransfer reference) i s _
        ⟨Persists.book s reference (by decide : TransferState.accepted ≠ .absent), _, _, _, _, rfl⟩ inv
      refine ⟨inv', guar, ?_⟩
      cases i.lost <;> simp
    · simp only [absent, if_false]
      refine ⟨inv, still.2, ?_⟩
      cases i.lost <;> simp [absent]

/-- The rules hold of every contract that leaves the records of payouts free. -/
theorem Rules.of_apart (tid : Nat) (rely : ∀ s t, c.rely s t → Persists s t)
    (own : ∀ label i s t, c.guar label i s t → Persists s t)
    (still : ∀ label i s, c.guar label i s s)
    (apart : ∀ label i s t, Apart s t → c.inv s → c.inv t ∧ c.guar label i s t) :
    Rules tid c (fun _ _ => True) (fun _ _ => True) fun _ _ => True where
  rely := rely
  own := own
  still label i s _ := still label i s
  target _ _ _ _ _ := trivial
  createOutflow disbursement attemptNumber _ _ := by
    refine commit_apart apart fun i s id t done => ?_
    obtain ⟨-, done⟩ := unless_ok.mp done
    obtain ⟨-, done⟩ := unless_ok.mp done
    obtain ⟨rfl, rfl⟩ := Prod.mk.inj (Except.ok.inj done)
    exact ⟨⟨Persists.create s _, _, _, _, _, rfl⟩, _, List.getElem?_concat_length, rfl, rfl⟩
  initiateTransfer _ _ _ _ _ := initiateTransfer_apart apart
  markInitiated _ _ _ _ _ _ _ := by
    refine commit_apart apart fun i s _ t done => ⟨?_, trivial⟩
    obtain ⟨v, updated, -, rfl⟩ := map_pair_ok.mp done
    refine apart_of_outflow ?_ updated v.settling
    exact fun _ => ⟨rfl, rfl⟩
  markOutflowSuccessful _ _ _ _ _ _ _ := settlingWrite_apart apart fun _ _ => ⟨rfl, rfl⟩
  markOutflowFailed _ _ _ _ _ _ _ := settlingWrite_apart apart fun _ _ => ⟨rfl, rfl⟩
  markSuccessful _ _ _ :=
    closing_apart apart fun _ _ _ _ done => updateDisbursement_marked done fun _ => rfl
  updateUnlessOnHold disbursementId failureReason _ _ := by
    refine closing_apart apart fun i s a t done => ?_
    obtain rfl : _ = t := congrArg Prod.snd (Except.ok.inj done)
    exact holdRow_marked disbursementId failureReason i.now s
  markOnHoldAlerted _ _ := disbursementWrite_apart apart fun _ _ => rfl
  markProcessing _ _ := disbursementWrite_apart apart fun _ _ => rfl
  markCancelled _ _ _ _ := disbursementWrite_apart apart fun _ _ => rfl

end Apart

end Bitmonie.PayoutRules
