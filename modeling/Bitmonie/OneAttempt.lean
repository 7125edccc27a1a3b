import Bitmonie.AttemptHistory
import Mathlib.Data.List.Induction

/-! One attempt at a time. `dispatch` inserts an attempt after it saw none in flight, a retry
after it saw the disbursement ON_HOLD; both have looked before the insert, and a status is
written, and a transfer sent, for an attempt that may have been given up since. -/
namespace Bitmonie.OneAttempt
open PayoutRecords AttemptWrites AttemptHistory

def Sole (reference : OutflowReference) (w : World) : Prop :=
  ∀ outflow ∈ w.outflows, active reference.disbursementId outflow = true →
    outflow.providerReference = reference

/-- The law of one attempt at a time, at every moment and at every call of the provider. -/
structure OneAtATime (w₀ : World) (trace : List (Nat × Event World Answer Access)) : Prop where
  moments : ∀ past rest, trace = past ++ rest → ∀ disbursementId,
    activeCount disbursementId (stateAfter w₀ past) ≤ 1
  calls : ∀ e ∈ trace, ∀ reference, e.2.label = .initiateTransfer reference → Sole reference e.2.before

/-- The row gets a status that is final. -/
def settles (id : Nat) (e : PayoutEvent) : Bool :=
  match e.label with
  | .outflowStatus settled status => settled = id && !status.inFlight && !e.answer.fails
  | _ => false

/-- Where the call has found the disbursement ON_HOLD, no attempt of it was active; and since
then no other call has inserted one. -/
def undisputed (tid disbursementId : Nat) (past : List (Nat × PayoutEvent)) : Bool :=
  ((own tid past).getLast?.all fun read =>
    !onHold disbursementId read.before || activeCount disbursementId read.before = 0) &&
  (since tid (fun _ => true) past).all fun other =>
    !(inserts other.2 && other.2.label = .createOutflow disbursementId)

/-- What the call has inserted, no call has settled since. -/
def standing (tid : Nat) (past : List (Nat × PayoutEvent)) : Bool :=
  (own tid past).all fun made => !inserts made ||
    (since tid inserts past).all fun other => !settles made.before.outflows.length other.2

/-- A retry looks while no attempt is active, no other call inserts one between a call's look
and its insert, and none is settled or given up before its call has recorded that it was sent. -/
def ordered (past : List (Nat × PayoutEvent)) (e : Nat × PayoutEvent) : Bool :=
  match e.2.label with
  | .createOutflow disbursementId => !inserts e.2 || undisputed e.1 disbursementId past
  | .outflowStatus _ .processing | .initiateTransfer _ => standing e.1 past
  | _ => true

section Access
variable {s t : World}

theorem activeCount_of_eq (same : t.outflows = s.outflows) (disbursementId : Nat) :
    activeCount disbursementId t = activeCount disbursementId s := by
  rw [activeCount, same, activeCount]

theorem activeCount_create {created : Outflow} (same : t.outflows = s.outflows ++ [created])
    (pending : created.status = .pending) (disbursementId : Nat) :
    activeCount disbursementId t = activeCount disbursementId s +
      if created.disbursementId = disbursementId then 1 else 0 := by
  rw [activeCount, same, List.countP_append, activeCount]
  simp [active, pending, OutflowStatus.inFlight]

theorem activeCount_set {id : Nat} {before after : Outflow} (found : s.outflows[id]? = some before)
    (same : t.outflows = s.outflows.set id after) (disbursementId : Nat) :
    activeCount disbursementId t + (if active disbursementId before then 1 else 0) =
      activeCount disbursementId s + if active disbursementId after then 1 else 0 := by
  obtain ⟨bound, here⟩ := List.getElem?_eq_some_iff.mp found
  have least : (if active disbursementId before then 1 else 0) ≤
      s.outflows.countP (active disbursementId) := by
    split
    · rename_i is
      exact List.countP_pos_iff.mpr ⟨before, List.mem_of_getElem? found, is⟩
    · exact Nat.zero_le _
  rw [activeCount, same, List.countP_set bound, here, activeCount]
  omega

/-- The one that is active is the one that is meant. -/
theorem sole_of_active {reference : OutflowReference} {own : Outflow}
    (single : activeCount reference.disbursementId s ≤ 1) (member : own ∈ s.outflows)
    (is : active reference.disbursementId own = true) (same : own.providerReference = reference) :
    Sole reference s := by
  intro outflow member' is'
  rw [activeCount, List.countP_eq_length_filter] at single
  have inside := List.mem_filter.mpr ⟨member, is⟩
  have inside' := List.mem_filter.mpr ⟨member', is'⟩
  match chosen : s.outflows.filter (active reference.disbursementId) with
  | [] => simp [chosen] at inside
  | [only] =>
    rw [chosen, List.mem_singleton] at inside inside'
    rw [inside', ← inside, same]
  | _ :: _ :: _ => simp [chosen] at single

def Flying (id : Nat) (reference : OutflowReference) (w : World) : Prop :=
  ∃ outflow, w.outflows[id]? = some outflow ∧ outflow.disbursementId = reference.disbursementId ∧
    outflow.providerReference = reference ∧ outflow.status.inFlight = true

theorem Flying.of_eq {id : Nat} {reference : OutflowReference} (same : t.outflows = s.outflows)
    (flying : Flying id reference s) : Flying id reference t := by
  rwa [Flying, same]

theorem Flying.kept {id : Nat} {reference : OutflowReference} {e : PayoutEvent}
    (effect : Effect e.label e.answer e.before e.after) (unsettled : settles id e = false)
    (flying : Flying id reference e.before) : Flying id reference e.after := by
  obtain ⟨label, i, s, t⟩ := e
  change Effect label i s t at effect
  change Flying id reference s at flying
  cases label with
  | createOutflow here =>
    rcases effect with same | ⟨created, -, -, same⟩
    · exact flying.of_eq same
    · obtain ⟨outflow, found, row⟩ := flying
      exact ⟨outflow, by rw [same]; exact concat_of_row found, row⟩
  | outflowStatus written status =>
    obtain ⟨-, wrote⟩ := effect
    split at wrote
    · exact flying.of_eq wrote
    rename_i succeeds
    obtain ⟨before, after, found, lands, same⟩ := wrote
    obtain ⟨outflow, present, owner, named, flies⟩ := flying
    by_cases own : written = id
    · subst own
      obtain rfl := Option.some.inj (found.symm.trans present)
      refine ⟨after, by rw [same]; exact getElem?_set_of_eq found, ?_⟩
      have up : status.inFlight = true := by simpa [settles, succeeds] using unsettled
      exact ⟨lands.owner.trans owner, lands.reference.trans named, lands.lands ▸ up⟩
    · exact ⟨outflow, by rw [same, List.getElem?_set_ne own]; exact present, owner, named, flies⟩
  | _ => exact flying.of_eq effect

/-- Only an attempt that is in flight is marked PROCESSING. -/
def Steady (e : PayoutEvent) : Prop :=
  ∀ id, e.label = .outflowStatus id .processing → ∃ reference, Flying id reference e.before

/-- A status is written of a row that is in flight, or it is not one in flight. -/
theorem activeCount_status {id : Nat} {status : OutflowStatus} {now : Time} {before after : Outflow}
    (found : s.outflows[id]? = some before) (written : Written status now before after)
    (same : t.outflows = s.outflows.set id after)
    (flies : status.inFlight = true → before.status.inFlight = true) (disbursementId : Nat) :
    activeCount disbursementId t ≤ activeCount disbursementId s := by
  have counts := activeCount_set found same disbursementId
  simp only [active, written.lands, written.owner] at counts
  by_cases up : status.inFlight = true
  · simp only [up, flies up] at counts
    omega
  · simp only [up, Bool.and_false, Bool.false_eq_true, if_false] at counts
    omega

theorem activeCount_step {e : PayoutEvent} (effect : Effect e.label e.answer e.before e.after)
    (steady : Steady e) (disbursementId : Nat) :
    activeCount disbursementId e.after ≤ activeCount disbursementId e.before ∨
      inserts e = true ∧ e.label = .createOutflow disbursementId ∧
        activeCount disbursementId e.after = activeCount disbursementId e.before + 1 := by
  obtain ⟨label, i, s, t⟩ := e
  change Effect label i s t at effect
  cases label with
  | createOutflow here =>
    rcases effect with same | ⟨created, rfl, pending, same⟩
    · exact .inl (activeCount_of_eq same disbursementId).le
    · have counts := activeCount_create same pending disbursementId
      by_cases here : created.disbursementId = disbursementId
      · rw [if_pos here] at counts
        exact .inr ⟨by simp [inserts, same], by rw [here], counts⟩
      · rw [if_neg here] at counts
        exact .inl counts.le
  | outflowStatus id status =>
    obtain ⟨known, wrote⟩ := effect
    left
    split at wrote
    · exact (activeCount_of_eq wrote disbursementId).le
    obtain ⟨before, after, found, written, same⟩ := wrote
    refine activeCount_status found written same (fun up => ?_) disbursementId
    cases status with
    | pending => exact absurd rfl known
    | processing =>
      obtain ⟨_, outflow, present, _, _, flies⟩ := steady id rfl
      obtain rfl := Option.some.inj (found.symm.trans present)
      exact flies
    | successful => cases up
    | failed => cases up
  | _ => exact .inl (activeCount_of_eq effect disbursementId).le

theorem sole_of_flying {id : Nat} {reference : OutflowReference}
    (single : activeCount reference.disbursementId s ≤ 1) (flying : Flying id reference s) :
    Sole reference s := by
  obtain ⟨outflow, found, owner, same, flies⟩ := flying
  refine sole_of_active single (List.mem_of_getElem? found) ?_ same
  simp [active, owner, flies]

end Access

section Run
variable {w₀ : World} {trace past rest : List (Nat × PayoutEvent)} {e : Nat × PayoutEvent}
  {c : Config World Answer Access AppError Unit}

/-- From its insert on an attempt that still stands has been in flight. -/
theorem flying_of_standing (run : Runs procedure w₀ trace c) (split : trace = past ++ e :: rest)
    {id : Nat} {reference : OutflowReference} (inserted : Inserted id reference (own e.1 past))
    (stands : standing e.1 past = true) : Flying id reference e.2.before := by
  obtain ⟨earlier, made, later, owned, others, inserting, rfl, created, owner, pending, named,
    rows⟩ := inserted
  have member : made ∈ own e.1 past := by simp [owned]
  obtain ⟨first, mid, rfl, rfl⟩ := own_split owned
  have unsettled := List.all_eq_true.mp stands made member
  rw [inserting, since_of_split inserting others, Bool.not_true, Bool.false_or,
    List.all_eq_true] at unsettled
  refine run.keeps_until (Flying made.before.outflows.length reference)
    (first ++ [(e.1, made)]) mid (by simpa using split) (fun other passed => ?_) ?_
  · refine Flying.kept (run_effects run other (by simp [split, passed])) ?_
    simpa using unsettled other passed
  · rw [stateAfter_append]
    refine ⟨created, by rw [rows]; exact List.getElem?_concat_length, owner, named, ?_⟩
    rw [pending]
    rfl

/-- Since the call has looked, nothing has become active. -/
theorem free_of_undisputed (run : Runs procedure w₀ trace c) (split : trace = past ++ e :: rest)
    {disbursementId : Nat} (looked : Looked disbursementId (own e.1 past))
    (free : undisputed e.1 disbursementId past = true)
    (steady : ∀ other ∈ past, Steady other.2) : activeCount disbursementId e.2.before = 0 := by
  obtain ⟨earlier, read, owned, still, found⟩ := looked
  obtain ⟨seen, alone⟩ := Bool.and_eq_true_iff.mp free
  have none : activeCount disbursementId read.before = 0 := by
    rcases found with held | none
    · simpa [owned, held] using seen
    · exact none
  obtain ⟨first, mid, rfl, last⟩ := own_split owned
  rw [since_of_split rfl (by simp [last]), List.all_eq_true] at alone
  refine run.keeps_until (fun w => activeCount disbursementId w = 0)
    (first ++ [(e.1, read)]) mid (by simpa using split)
    (fun other passed here => ?_) (by rw [stateAfter_append, still, none])
  have effect := run_effects run other (by simp [split, passed])
  rcases activeCount_step effect (steady other (by simp [passed])) disbursementId with
    fewer | ⟨grown, label, -⟩
  · omega
  · have others := alone other passed
    simp [grown, label] at others

theorem prepared (run : Runs procedure w₀ trace c) (split : trace = past ++ e :: rest) :
    Prepared (own e.1 past) e.2 :=
  run.along (fun _ op => procedure_along _ op) split

theorem steady_of_ordered (run : Runs procedure w₀ trace c)
    (order : Throughout ordered [] trace = true) : ∀ e ∈ trace, Steady e.2 := by
  intro e member id label
  obtain ⟨past, rest, split⟩ := List.append_of_mem member
  have inserted := prepared run split
  have stands := Throughout.at (split ▸ order)
  simp only [Prepared, label] at inserted
  simp only [ordered, label] at stands
  obtain ⟨reference, inserted⟩ := inserted
  exact ⟨reference, flying_of_standing run split inserted stands⟩

/-- A run whose calls do not get in between each other keeps to one attempt at a time, at every
moment and at every transfer call. -/
theorem oneAtATime_of_ordered {w₀ : World} {trace : List (Nat × PayoutEvent)}
    {c : Config World Answer Access AppError Unit}
    (start : ∀ disbursementId, activeCount disbursementId w₀ ≤ 1)
    (run : Runs procedure w₀ trace c) (order : Throughout ordered [] trace = true) :
    OneAtATime w₀ trace := by
  have steady := steady_of_ordered run order
  have step (e) (member : e ∈ trace) (disbursementId : Nat)
      (single : activeCount disbursementId e.2.before ≤ 1) :
      activeCount disbursementId e.2.after ≤ 1 := by
    rcases activeCount_step (run_effects run e member) (steady e member) disbursementId with
      fewer | ⟨grown, label, more⟩
    · omega
    · obtain ⟨past, rest, split⟩ := List.append_of_mem member
      have looked := prepared run split
      have free := Throughout.at (split ▸ order)
      simp only [Prepared, label] at looked
      simp only [ordered, label, grown, Bool.not_true, Bool.false_or, List.nil_append] at free
      have none := free_of_undisputed run split looked free fun other passed =>
        steady other (by simp [split, passed])
      omega
  have single (e) (member : e ∈ trace) (disbursementId : Nat) :
      activeCount disbursementId e.2.before ≤ 1 := by
    obtain ⟨past, rest, split⟩ := List.append_of_mem member
    refine run.keeps_until (fun w => activeCount disbursementId w ≤ 1) [] past
      (by simpa using split) (fun other passed => ?_) (start disbursementId)
    exact step other (by simp [split, passed]) disbursementId
  constructor
  · intro past
    induction past using List.reverseRecOn with
    | nil => exact fun _ _ => start
    | append_singleton past last _ =>
      intro rest split disbursementId
      have member : last ∈ trace := by simp [split]
      rw [stateAfter_append]
      exact step last member disbursementId (single last member disbursementId)
  · intro e member reference label
    obtain ⟨past, rest, split⟩ := List.append_of_mem member
    have inserted := prepared run split
    have stands := Throughout.at (split ▸ order)
    simp only [Prepared, label] at inserted
    simp only [ordered, label] at stands
    obtain ⟨id, inserted⟩ := inserted
    exact sole_of_flying (single e member _) (flying_of_standing run split inserted stands)

end Run

theorem start_of_none {w : World} (none : w.outflows = []) (disbursementId : Nat) :
    activeCount disbursementId w ≤ 1 := by
  simp [activeCount, none]

def retried : List (Choice Operation Answer) :=
  [.start (.dispatch 0), .run 0 {}, .run 0 {}, .run 0 {}, .run 0 { fails := true }, .run 0 {},
    .run 0 {}, .run 0 {}, .run 0 {},
    .start (.retryDispatch 0), .run 1 {}, .run 1 {}, .run 1 {}, .run 1 {}, .run 1 {}]

theorem oneAtATime_retried : ∃ trace c, Runs procedure oneDisbursement trace c ∧
    c.shared.outflows.map (·.status) = [.failed, .processing] ∧ OneAtATime oneDisbursement trace := by
  have played := exists_run procedure oneDisbursement retried
    (fun trace c => decide (c.shared.outflows.map (·.status) = [.failed, .processing]) &&
      Throughout ordered [] trace) (by decide +kernel)
  obtain ⟨trace, c, run, checked⟩ := played
  obtain ⟨attempts, order⟩ := Bool.and_eq_true_iff.mp checked
  exact ⟨trace, c, run, of_decide_eq_true attempts,
    oneAtATime_of_ordered (start_of_none rfl) run order⟩

/-- The second retry looks after the first one has inserted its attempt, and before it has
marked the disbursement. -/
def retriedTwice : List (Choice Operation Answer) :=
  [.start (.dispatch 0), .run 0 {}, .run 0 {}, .run 0 {}, .run 0 { fails := true }, .run 0 {},
    .run 0 {}, .run 0 {}, .run 0 {},
    .start (.retryDispatch 0), .run 1 {}, .run 1 {}, .start (.retryDispatch 0), .run 2 {}, .run 2 {},
    .run 1 {}, .run 1 {}, .run 2 {}, .run 2 {}]

/-- Two attempts are active, and the provider has accepted both. -/
theorem two_attempts_at_a_time : ∃ trace c, Runs procedure oneDisbursement trace c ∧
    activeCount 0 c.shared = 2 ∧ c.shared.transfers ⟨2, 0⟩ = .accepted ∧
    c.shared.transfers ⟨3, 0⟩ = .accepted ∧ ¬ OneAtATime oneDisbursement trace := by
  have played := exists_run procedure oneDisbursement retriedTwice
    (fun _ c => decide (activeCount 0 c.shared = 2 ∧ c.shared.transfers ⟨2, 0⟩ = .accepted ∧
      c.shared.transfers ⟨3, 0⟩ = .accepted)) (by decide +kernel)
  obtain ⟨trace, c, run, checked⟩ := played
  obtain ⟨two, second, third⟩ := of_decide_eq_true checked
  refine ⟨trace, c, run, two, second, third, fun held => ?_⟩
  have last := held.moments trace [] (by simp) 0
  rw [← run.linked.1, two] at last
  omega

end Bitmonie.OneAttempt
