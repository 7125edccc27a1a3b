import Bitmonie.LoanOperations

/-! The release of collateral: a send to the provider that cannot be taken back, under a
Redis lock with a time to live, followed by a stamp on the loan. The memo of the send and
the mails are left out. -/
namespace Bitmonie.CollateralRelease
open LoanStatusService LoansService

inductive ReleaseResult where
  | released (reference : String)
  | alreadyReleased (reference : Option String)
  | inFlight
  | notEligible (reason : String)
  | sendFailed (error : String)
  deriving DecidableEq

/-- `SET lock 1 EX ttl NX`. `releasing` notes the call that goes on with the lock. -/
def acquireLock (tid loanId : Nat) : Action Bool :=
  .access (.acquireRelease loanId) (fun _ => true) fun i w =>
    if i.fails then (.error .unavailable, w)
    else if w.releaseLock loanId then (if i.lost then .error .unavailable else .ok false, w)
    else
      let locked := { w with releaseLock := Function.update w.releaseLock loanId true }
      if i.lost then (.error .unavailable, locked)
      else (.ok true,
        { locked with releasing := Function.update w.releasing loanId (some tid) })

/-- `DEL lock`, whoever set it; a failure is swallowed. -/
def deleteLock (tid loanId : Nat) : Action Unit :=
  .access (.deleteRelease loanId) (fun _ => true) fun i w =>
    (.ok (), { w with
      releaseLock :=
        if i.fails then w.releaseLock else Function.update w.releaseLock loanId false
      releasing :=
        if w.releasing loanId = some tid then Function.update w.releasing loanId none
        else w.releasing })

/-- The time to live of the lock runs out. -/
def expireLock (loanId : Nat) : Action Unit :=
  .access (.expireRelease loanId) (fun _ => true) fun _ w =>
    (.ok (), { w with releaseLock := Function.update w.releaseLock loanId false })

/-- The provider accepts the send unless the call `fails`; when the answer is `lost` the
call throws all the same. -/
def sendToLightningAddress (loanId : Nat) (address : String) : Action String :=
  .access (.sendCollateral loanId) (fun _ => true) fun i w =>
    if i.fails then (.error (.failure i.text), w)
    else (if i.lost then .error (.failure i.text) else .ok i.text, { w with
      sends := Function.update w.sends loanId (w.sends loanId + 1)
      sentTo := Function.update w.sentTo loanId (some address) })

/-- The address to send to, or why there is nothing to send. -/
def eligible : Option Loan → Except ReleaseResult String
  | none => .error (.notEligible "loan_not_found")
  | some loan =>
    if loan.status ≠ .repaid then .error (.notEligible ("status=" ++ loan.status.name))
    else if loan.collateralReleasedAt ≠ none then
      .error (.alreadyReleased loan.collateralReleaseReference)
    else match loan.collateralReleaseAddress with
      | none => .error (.notEligible "no_release_address")
      | some address => if address = "" then .error (.notEligible "no_release_address") else .ok address

def releaseTransition (loanId userId : Nat) : TransitionParams :=
  ⟨loanId, userId, some .repaid, .repaid, .system, .collateralReleased⟩

/-- `updateMany({ where: { id, collateral_released_at: null } })`, then the log. -/
def writeRelease (loanId userId : Nat) (reference : String) (now : Time) (w : World) :
    Except AppError World :=
  match w.loans[loanId]? with
  | none => .error (.failure "release already stamped between read-check and update")
  | some loan =>
    if loan.collateralReleasedAt ≠ none then
      .error (.failure "release already stamped between read-check and update")
    else
      let stamped := { loan with
        collateralReleasedAt := some now, collateralReleaseReference := some reference }
      transition (releaseTransition loanId userId)
        { w with loans := w.loans.set loanId stamped }

theorem writeRelease_done {loanId userId : Nat} {reference : String} {now : Time} {w t : World}
    (done : writeRelease loanId userId reference now w = .ok t) :
    ∃ loan, w.loans[loanId]? = some loan ∧ loan.collateralReleasedAt = none ∧
      transition (releaseTransition loanId userId) { w with
        loans := w.loans.set loanId { loan with
          collateralReleasedAt := some now, collateralReleaseReference := some reference } } =
        .ok t := by
  unfold writeRelease at done
  split at done
  · cases done
  rename_i loan found
  obtain ⟨unstamped, done⟩ := unless_ok.mp done
  exact ⟨loan, found, not_not.mp unstamped, done⟩

def stampRelease (loanId userId : Nat) (reference : String) : Action Unit :=
  commit (.stampRelease loanId) (loanFree loanId) fun i w =>
    (writeRelease loanId userId reference i.now w).map ((), ·)

/-- The alert to ops is sent once a day: `SET alerted 1 EX ttl NX`. -/
def maybeAlertOps (loanId : Nat) : Action Unit :=
  commit .redis (fun _ => true) fun _ w =>
    .ok ((), { w with releaseAlerted := Function.update w.releaseAlerted loanId true })

def clearAlert (loanId : Nat) : Action Unit :=
  commit .redis (fun _ => true) fun _ w =>
    .ok ((), { w with releaseAlerted := Function.update w.releaseAlerted loanId false })

/-- The body of the `try`, with the lock taken. -/
def releaseLocked (loanId : Nat) : Action ReleaseResult :=
  (query fun _ w => .ok w.loans[loanId]?).bind fun found =>
  match eligible found with
  | .error result => .pure result
  | .ok address =>
    (sendToLightningAddress loanId address).attempt.bind fun sent =>
    match sent with
    | .error e => (maybeAlertOps loanId).bind fun _ => .pure (.sendFailed e.message)
    | .ok reference =>
      ((stampRelease loanId ((found.map (·.userId)).getD 0) reference).bind fun _ =>
        (clearAlert loanId).bind fun _ =>
        -- `notifyCollateralReleased` reads the user before it sends.
        (query fun _ _ => .ok ()).bind fun _ =>
        .pure (.released reference)).catching fun e => .pure (.sendFailed e.message)

def releaseForLoan (tid loanId : Nat) : Action ReleaseResult :=
  (acquireLock tid loanId).bind fun acquired =>
  if acquired then (releaseLocked loanId).finishing (deleteLock tid loanId) else .pure .inFlight

def maxLoansPerCycle : Nat := 50

/-- Candidates of a cycle, `ORDER BY repaid_at ASC NULLS FIRST LIMIT 50`. -/
def eligibleLoans (w : World) : List Nat :=
  let rows := (List.range w.loans.length).filterMap fun id =>
    match w.loans[id]? with
    | some loan =>
      if loan.status = .repaid ∧ loan.collateralReleasedAt = none ∧
          loan.collateralReleaseAddress ≠ none ∧ loanFree id w then some (id, loan.repaidAt)
      else none
    | none => none
  let earlier (a b : Option Time) : Prop := a = none ∨ ∃ t ∈ a, ∃ t' ∈ b, t ≤ t'
  ((rows.insertionSort fun a b => earlier a.2 b.2).map Prod.fst).take maxLoansPerCycle

def runCollateralReleaseCycle (tid : Nat) : Action Unit :=
  (query fun _ w => .ok (eligibleLoans w)).bind fun rows =>
  Proc.each rows fun loanId =>
    ((releaseForLoan tid loanId).bind fun _ => .pure ()).catching fun _ => .pure ()

/-- `OpsLoansService.releaseCollateral`: the audit row comes before the release. -/
def opsReleaseCollateral (tid loanId : Nat) : Action Unit :=
  (query fun _ w => match w.loans[loanId]? with
    | none => .error .loanNotFound
    | some _ => .ok ()).bind fun _ =>
  (commit .audit (fun _ => true) fun _ w => .ok ((), w)).bind fun _ =>
  (releaseForLoan tid loanId).bind fun result =>
  match result with
  | .notEligible reason => .throw (.collateralReleaseNotEligible reason)
  | .sendFailed error => .throw (.collateralReleaseSendFailed error)
  | _ => .pure ()

/-- The hand-off after a full repayment; an error is only logged. -/
def handOff (tid loanId : Nat) : Action Unit :=
  ((releaseForLoan tid loanId).bind fun _ => .pure ()).catching fun _ => .pure ()

inductive Operation where
  | handOff (loanId : Nat)
  | runCollateralReleaseCycle
  | opsReleaseCollateral (loanId : Nat)
  | expireLock (loanId : Nat)

def procedure (tid : Nat) : Operation → Action Unit
  | .handOff loanId => handOff tid loanId
  | .runCollateralReleaseCycle => runCollateralReleaseCycle tid
  | .opsReleaseCollateral loanId => opsReleaseCollateral tid loanId
  | .expireLock loanId => expireLock loanId

def Stamped (loanId : Nat) (w : World) : Prop :=
  ∃ loan, w.loans[loanId]? = some loan ∧ loan.collateralReleasedAt ≠ none

/-- One send at most; and whenever no call goes on, a send has left its stamp. -/
structure Safe (loanId : Nat) (w : World) : Prop where
  once : w.sends loanId ≤ 1
  idle : w.releasing loanId = none → w.sends loanId = 0 ∨ Stamped loanId w
  locked : w.releasing loanId ≠ none → w.releaseLock loanId = true

/-- A send that the provider accepted returns, the stamp after it commits, and the lock
does not run out under a call that goes on. -/
def orderly : Access → Answer → World → Bool
  | .sendCollateral _, i, _ => i.fails || !i.lost
  | .stampRelease _, i, _ => !i.fails
  | .expireRelease loanId, _, w => (w.releasing loanId).isNone
  | _, _, _ => true

abbrev Releasing : Nat → World → World → Prop :=
  Owned World.releasing fun w loanId => (w.sends loanId, w.loans[loanId]?)

def oneSend : Discipline World Answer Access where
  inv w := ∀ loanId, Safe loanId w
  allowed label i w := orderly label i w = true
  fresh tid w := ∀ loanId, w.releasing loanId ≠ some tid
  rely := Releasing
  guar tid _ _ s t := ∀ other, tid ≠ other → Releasing other s t

theorem oneSend_sound : oneSend.Sound where
  refl := Owned.refl
  trans _ _ _ _ := Owned.trans
  compatible _ other _ _ _ _ different _ guar := guar other different
  fresh _ _ _ rely unheld loanId := rely.unheld loanId (unheld loanId)

abbrev contract (tid : Nat) : Contract World Answer Access := oneSend.contract tid

theorem still (tid : Nat) (label : Access) (i : Answer) (w : World) :
    (contract tid).guar label i w w := fun other _ => Owned.refl other w

/-- Accesses to Redis keys and rows that the release does not look at. -/
theorem safe_of_eq {w w' : World} (safe : ∀ loanId, Safe loanId w) (sends : w'.sends = w.sends)
    (loans : w'.loans = w.loans) (releasing : w'.releasing = w.releasing)
    (lock : w'.releaseLock = w.releaseLock) : ∀ loanId, Safe loanId w' := by
  intro loanId
  have held := safe loanId
  refine ⟨sends ▸ held.once, fun idle => ?_, fun going => ?_⟩
  · rw [releasing] at idle
    simpa [Stamped, sends, loans] using held.idle idle
  · rw [lock]
    exact held.locked (releasing ▸ going)

theorem commit_redis_meets {tid : Nat} {f : World → World} {w : World}
    {post : Unit → World → Prop} {err : AppError → World → Prop} (label : Access)
    (keeps : ∀ w, (f w).sends = w.sends ∧ (f w).loans = w.loans ∧
      (f w).releasing = w.releasing ∧ (f w).releaseLock = w.releaseLock)
    (ends : ∀ t, Releasing tid w t → err .unavailable t ∧ post () (f t) ∧ err .unavailable (f t)) :
    (commit label (fun _ => true) fun _ w => .ok ((), f w)).Meets (contract tid) post err w := by
  apply commit_meets
  intro t moved safe _ i _
  obtain ⟨fault, done, unsure⟩ := ends t moved
  refine ⟨still tid label i t, fun _ => fault, fun _ h => (nomatch h), fun _ t' _ wrote => ?_⟩
  obtain ⟨rfl, rfl⟩ := Prod.mk.inj (Except.ok.inj wrote)
  obtain ⟨sends, loans, releasing, lock⟩ := keeps t
  refine ⟨safe_of_eq safe sends loans releasing lock, fun other _ => ?_, fun _ => done,
    fun _ => unsure⟩
  exact .of_view releasing fun loanId _ => by rw [sends, loans]

/-- The call goes on with the release of this loan, and with no other. -/
structure Going (tid loanId : Nat) (w : World) : Prop where
  mine : w.releasing loanId = some tid
  others : ∀ other, other ≠ loanId → w.releasing other ≠ some tid

theorem Going.moved {tid loanId : Nat} {s t : World} (rely : Releasing tid s t)
    (going : Going tid loanId s) : Going tid loanId t ∧ t.sends loanId = s.sends loanId ∧
      t.loans[loanId]? = s.loans[loanId]? := by
  obtain ⟨mine, seen⟩ := rely.kept loanId going.mine
  obtain ⟨sends, row⟩ := Prod.mk.inj seen
  exact ⟨⟨mine, fun other different => rely.unheld other (going.others other different)⟩, sends, row⟩

theorem Going.not_other {tid loanId other : Nat} {w : World} (going : Going tid loanId w)
    (different : tid ≠ other) : w.releasing loanId ≠ some other :=
  fun theirs => different (Option.some.inj (going.mine.symm.trans theirs))

/-- What the call that goes on knows when it is about to delete the lock. -/
structure Settled (tid loanId : Nat) (w : World) : Prop extends Going tid loanId w where
  sent : w.sends loanId = 0 ∨ Stamped loanId w

theorem Settled.moved {tid loanId : Nat} {s t : World} (rely : Releasing tid s t)
    (settled : Settled tid loanId s) : Settled tid loanId t := by
  obtain ⟨going, sends, row⟩ := settled.toGoing.moved rely
  refine ⟨going, ?_⟩
  rw [sends]
  simpa [Stamped, row] using settled.sent

theorem settled_query {tid loanId : Nat} {f : Answer → World → Except AppError α} {w : World}
    {post : α → World → Prop} (settled : Settled tid loanId w)
    (read : ∀ t i a, Releasing tid w t → f i t = .ok a → post a t) :
    (query f).Meets (contract tid) post (fun _ => Settled tid loanId) w :=
  query_meets fun t moved _ i _ => ⟨still tid .read i t, settled.moved moved,
    fun _ _ => settled.moved moved, fun a result => read t i a moved result⟩

theorem eligible_unstamped {found : Option Loan} {address : String}
    (due : eligible found = .ok address) :
    ∃ loan, found = some loan ∧ loan.collateralReleasedAt = none := by
  cases found with
  | none => cases due
  | some loan =>
    rw [eligible] at due
    obtain ⟨-, due⟩ := unless_ok.mp due
    obtain ⟨unstamped, -⟩ := unless_ok.mp due
    exact ⟨loan, rfl, not_not.mp unstamped⟩

/-- The send: the caller has read an unstamped row under its lock, so none came before. -/
theorem send_meets {tid loanId : Nat} {address : String} {w : World} (going : Going tid loanId w)
    (unsent : w.sends loanId = 0) :
    (sendToLightningAddress loanId address).Meets (contract tid)
      (fun _ t => Going tid loanId t ∧ t.loans[loanId]? = w.loans[loanId]?)
      (fun _ => Settled tid loanId) w := by
  rw [sendToLightningAddress, Proc.meets_access]
  intro t moved safe _ i returns
  obtain ⟨going, sends, row⟩ := going.moved moved
  change orderly (.sendCollateral loanId) i t = true at returns
  cases fails : i.fails with
  | true => exact ⟨safe, still tid _ i t, going, .inl (sends.trans unsent)⟩
  | false =>
    have answered : i.lost = false := by simpa [orderly, fails] using returns
    simp only [answered, Bool.false_eq_true, if_false]
    refine ⟨fun other => ?_, fun other different => ?_, ⟨going.mine, going.others⟩, row⟩
    · by_cases same : other = loanId
      · subst same
        refine ⟨by simp [sends, unsent], fun idle => ?_, (safe other).locked⟩
        exact absurd (going.mine.symm.trans idle) (by simp)
      · exact ⟨by simpa [same] using (safe other).once,
          fun idle => by simpa [same, Stamped] using (safe other).idle idle, (safe other).locked⟩
    · exact .of_key loanId (fun k elsewhere => ⟨rfl, by simp [elsewhere]⟩)
        (going.not_other different) (going.not_other different)

theorem writeRelease_ok {loanId userId : Nat} {reference : String} {now : Time} {w : World}
    {loan : Loan} (found : w.loans[loanId]? = some loan)
    (unstamped : loan.collateralReleasedAt = none) : ∃ logs,
    writeRelease loanId userId reference now w = .ok { w with
      loans := w.loans.set loanId { loan with
        collateralReleasedAt := some now, collateralReleaseReference := some reference }
      statusLogs := logs } := by
  refine ⟨w.statusLogs ++ [(releaseTransition loanId userId).log], ?_⟩
  have reads : (releaseTransition loanId userId).fromStatus = some .repaid := rfl
  have admitted (loans : List Loan) :
      updateStatus (releaseTransition loanId userId) loans = .ok loans :=
    updateStatus_self reads rfl (by simp [releaseTransition, selfTransitionReasons])
  simp only [writeRelease, found, unstamped, ne_eq, not_true_eq_false, if_false, transition, admitted]
  rfl

/-- The stamp: the row is still the unstamped one that was read, and the update finds it. -/
theorem stamp_meets {tid loanId userId : Nat} {reference : String} {loan : Loan} {w : World}
    (going : Going tid loanId w) (found : w.loans[loanId]? = some loan)
    (unstamped : loan.collateralReleasedAt = none) :
    (stampRelease loanId userId reference).Meets (contract tid) (fun _ => Settled tid loanId)
      (fun _ => Settled tid loanId) w := by
  apply commit_meets
  intro t moved safe _ i commits
  obtain ⟨going, _, row⟩ := going.moved moved
  have present : t.loans[loanId]? = some loan := row.trans found
  obtain ⟨logs, wrote⟩ := @writeRelease_ok loanId userId reference i.now t loan present unstamped
  change orderly (.stampRelease loanId) i t = true at commits
  refine ⟨still tid _ i t, fun fails => ?_, fun e refused => ?_, fun _ t' _ done => ?_⟩
  · simp [orderly, fails] at commits
  · rw [wrote] at refused
    cases refused
  · rw [wrote] at done
    obtain ⟨_, rfl⟩ := Prod.mk.inj (Except.ok.inj done)
    have stamped : Stamped loanId { t with
        loans := t.loans.set loanId { loan with
          collateralReleasedAt := some i.now, collateralReleaseReference := some reference }
        statusLogs := logs } := ⟨_, getElem?_set_of_eq present, by simp⟩
    refine ⟨fun other => ?_, fun other different => ?_,
      fun _ => ⟨⟨going.mine, going.others⟩, .inr stamped⟩,
      fun _ => ⟨⟨going.mine, going.others⟩, .inr stamped⟩⟩
    · refine ⟨(safe other).once, fun idle => ?_, (safe other).locked⟩
      by_cases same : other = loanId
      · exact .inr (same ▸ stamped)
      · have elsewhere : loanId ≠ other := Ne.symm same
        simpa [Stamped, List.getElem?_set_ne elsewhere] using (safe other).idle idle
    · exact .of_key loanId
        (fun k elsewhere => ⟨rfl, by simp [List.getElem?_set_ne (Ne.symm elsewhere)]⟩)
        (going.not_other different) (going.not_other different)

theorem releaseLocked_meets {tid loanId : Nat} {w : World} (settled : Settled tid loanId w) :
    (releaseLocked loanId).Meets (contract tid) (fun _ => Settled tid loanId)
      (fun _ => Settled tid loanId) w := by
  rw [releaseLocked, Proc.meets_bind]
  apply settled_query settled
  intro t _ found moved read
  obtain rfl := Except.ok.inj read
  have settledₜ := settled.moved moved
  cases due : eligible t.loans[loanId]? with
  | error result => exact settledₜ
  | ok address =>
    obtain ⟨loan, present, unstamped⟩ := eligible_unstamped due
    have unsent : t.sends loanId = 0 := by
      rcases settledₜ.sent with unsent | ⟨stamped, has, at_⟩
      · exact unsent
      · obtain rfl := Option.some.inj (present.symm.trans has)
        exact absurd unstamped at_
    simp only [Proc.meets_bind, Proc.meets_attempt]
    apply (send_meets settledₜ.toGoing unsent).imp
    · rintro reference u ⟨going, row⟩
      rw [Proc.meets_catching, Proc.meets_bind]
      apply (stamp_meets going (row.trans present) unstamped).imp
      · intro _ v settled
        rw [Proc.meets_bind]
        refine commit_redis_meets .redis (fun _ => ⟨rfl, rfl, rfl, rfl⟩) fun x moved => ?_
        obtain ⟨going, sent⟩ := settled.moved moved
        refine ⟨⟨going, sent⟩, ?_, ⟨⟨going.mine, going.others⟩, sent⟩⟩
        rw [Proc.meets_bind]
        have cleared : Settled tid loanId
            { x with releaseAlerted := Function.update x.releaseAlerted loanId false } :=
          ⟨⟨going.mine, going.others⟩, sent⟩
        exact settled_query cleared fun _ _ _ moved _ => cleared.moved moved
      · exact fun _ _ settled => settled
    · intro e u settled
      refine commit_redis_meets .redis (fun _ => ⟨rfl, rfl, rfl, rfl⟩) fun x moved => ?_
      obtain ⟨going, sent⟩ := settled.moved moved
      exact ⟨⟨going, sent⟩, ⟨⟨going.mine, going.others⟩, sent⟩, ⟨⟨going.mine, going.others⟩, sent⟩⟩

/-- The lock of a loan is changed, with or without noting a call that goes on. -/
theorem lock_meets (tid : Nat) {loanId : Nat} {t : World} (t' : World) (safe : ∀ loanId, Safe loanId t)
    (sends : t'.sends = t.sends) (loans : t'.loans = t.loans)
    (locks : ∀ other, other ≠ loanId → t'.releaseLock other = t.releaseLock other)
    (calls : ∀ other, other ≠ loanId → t'.releasing other = t.releasing other)
    (mine : ∀ other, tid ≠ other → t.releasing loanId ≠ some other ∧ t'.releasing loanId ≠ some other)
    (here : Safe loanId t') (label : Access) (i : Answer) :
    (∀ loanId, Safe loanId t') ∧ (contract tid).guar label i t t' := by
  refine ⟨fun other => ?_, fun other different => ?_⟩
  · by_cases same : other = loanId
    · exact same ▸ here
    · refine ⟨sends ▸ (safe other).once, fun idle => ?_, fun going => ?_⟩
      · rw [calls other same] at idle
        simpa [Stamped, sends, loans] using (safe other).idle idle
      · rw [locks other same]
        exact (safe other).locked (calls other same ▸ going)
  · obtain ⟨before, after⟩ := mine other different
    exact .of_key loanId (fun k elsewhere => ⟨calls k elsewhere, by rw [sends, loans]⟩) before after

def Resting (tid : Nat) (w : World) : Prop := ∀ loanId, w.releasing loanId ≠ some tid

/-- Taking the lock: it was free, so no call goes on and what was sent is stamped. -/
theorem acquireLock_meets {tid loanId : Nat} {w : World} (resting : Resting tid w) :
    (acquireLock tid loanId).Meets (contract tid)
      (fun acquired t => if acquired then Settled tid loanId t else Resting tid t)
      (fun _ => Resting tid) w := by
  rw [acquireLock, Proc.meets_access]
  intro t moved safe _ i _
  have restingₜ : Resting tid t := fun other => moved.unheld other (resting other)
  cases fails : i.fails with
  | true => exact ⟨safe, still tid _ i t, restingₜ⟩
  | false =>
    cases locked : t.releaseLock loanId with
    | true =>
      simp only [Bool.false_eq_true, if_false, if_true]
      refine ⟨safe, still tid _ i t, ?_⟩
      cases i.lost <;> exact restingₜ
    | false =>
      have idle : t.releasing loanId = none := by
        by_contra going
        exact absurd ((safe loanId).locked going) (by simp [locked])
      have unheld (other : Nat) : t.releasing loanId ≠ some other := by simp [idle]
      cases lost : i.lost with
      | true =>
        simp only [Bool.false_eq_true, if_false, if_true]
        obtain ⟨safe', guar⟩ := lock_meets tid
          { t with releaseLock := Function.update t.releaseLock loanId true } safe rfl rfl
          (fun other different => by simp [different]) (fun _ _ => rfl)
          (fun other _ => ⟨unheld other, unheld other⟩)
          ⟨(safe loanId).once, (safe loanId).idle, fun _ => by simp⟩ (.acquireRelease loanId) i
        exact ⟨safe', guar, restingₜ⟩
      | false =>
        simp only [Bool.false_eq_true, if_false]
        obtain ⟨safe', guar⟩ := lock_meets tid
          { t with
            releaseLock := Function.update t.releaseLock loanId true
            releasing := Function.update t.releasing loanId (some tid) } safe rfl rfl
          (fun other different => by simp [different]) (fun other different => by simp [different])
          (fun other different => ⟨unheld other, by simpa using different⟩)
          ⟨(safe loanId).once, fun none => by simp at none, fun _ => by simp⟩
          (.acquireRelease loanId) i
        refine ⟨safe', guar, ⟨by simp, fun other different => ?_⟩, (safe loanId).idle idle⟩
        simpa [different] using restingₜ other

/-- Deleting the lock at the end of the call that took it. -/
theorem deleteLock_meets {tid loanId : Nat} {w : World} {err : AppError → World → Prop}
    (settled : Settled tid loanId w) :
    (deleteLock tid loanId).Meets (contract tid) (fun _ => Resting tid) err w := by
  rw [deleteLock, Proc.meets_access]
  intro t moved safe _ i _
  obtain ⟨going, sent⟩ := settled.moved moved
  simp only [going.mine, if_true]
  obtain ⟨safe', guar⟩ := lock_meets tid
    { t with
      releaseLock :=
        if i.fails then t.releaseLock else Function.update t.releaseLock loanId false
      releasing := Function.update t.releasing loanId none } safe rfl rfl
    (fun other different => by cases i.fails <;> simp [different])
    (fun other different => by simp [different])
    (fun other different => ⟨going.not_other different, by simp⟩)
    ⟨(safe loanId).once, fun _ => sent, fun going => by simp at going⟩ (.deleteRelease loanId) i
  refine ⟨safe', guar, fun other => ?_⟩
  by_cases same : other = loanId
  · subst same
    simp
  · simpa [same] using going.others other same

theorem releaseForLoan_meets {tid loanId : Nat} {w : World} (resting : Resting tid w) :
    (releaseForLoan tid loanId).Meets (contract tid) (fun _ => Resting tid)
      (fun _ => Resting tid) w := by
  rw [releaseForLoan, Proc.meets_bind]
  apply (acquireLock_meets resting).imp
  · intro acquired t ended
    cases acquired with
    | false => exact ended
    | true =>
      simp only [if_true, Proc.meets_finishing]
      exact (releaseLocked_meets ended).imp (fun _ _ settled => deleteLock_meets settled)
        fun _ _ settled => deleteLock_meets settled
  · exact fun _ _ rest => rest

theorem resting_query {tid : Nat} {f : Answer → World → Except AppError α} {w : World}
    {post : α → World → Prop} (resting : Resting tid w)
    (read : ∀ t a, Resting tid t → post a t) :
    (query f).Meets (contract tid) post (fun _ => Resting tid) w := by
  apply query_meets
  intro t moved _ i _
  have restingₜ : Resting tid t := fun loanId => moved.unheld loanId (resting loanId)
  exact ⟨still tid .read i t, restingₜ, fun _ _ => restingₜ, fun a _ => read t a restingₜ⟩

theorem handOff_meets {tid loanId : Nat} {w : World} (resting : Resting tid w) :
    (handOff tid loanId).Meets (contract tid) (fun _ => Resting tid) (fun _ => Resting tid) w := by
  rw [handOff, Proc.meets_catching, Proc.meets_bind]
  exact (releaseForLoan_meets resting).imp (fun _ _ rest => rest) fun _ _ rest => rest

theorem procedure_meets (tid : Nat) (op : Operation) (w : World) (resting : Resting tid w) :
    (procedure tid op).Meets (contract tid) (fun _ => Resting tid) (fun _ => Resting tid) w := by
  cases op with
  | handOff loanId => exact handOff_meets resting
  | runCollateralReleaseCycle =>
    rw [procedure, runCollateralReleaseCycle, Proc.meets_bind]
    apply resting_query resting
    intro t rows restingₜ
    exact Proc.meets_each restingₜ fun loanId _ u rest => handOff_meets rest
  | opsReleaseCollateral loanId =>
    rw [procedure, opsReleaseCollateral, Proc.meets_bind]
    apply resting_query resting
    intro t _ restingₜ
    rw [Proc.meets_bind]
    refine commit_redis_meets .audit (fun _ => ⟨rfl, rfl, rfl, rfl⟩) fun u moved => ?_
    have restingᵤ : Resting tid u := fun id => moved.unheld id (restingₜ id)
    refine ⟨restingᵤ, ?_, restingᵤ⟩
    rw [Proc.meets_bind]
    apply (releaseForLoan_meets restingᵤ).imp
    · intro result v rest
      cases result <;> exact rest
    · exact fun _ _ rest => rest
  | expireLock loanId =>
    rw [procedure, expireLock, Proc.meets_access]
    intro t moved safe _ i idle
    have restingₜ : Resting tid t := fun id => moved.unheld id (resting id)
    change orderly (.expireRelease loanId) i t = true at idle
    have none : t.releasing loanId = none := by simpa [orderly] using idle
    obtain ⟨safe', guar⟩ := lock_meets tid
      { t with releaseLock := Function.update t.releaseLock loanId false } safe rfl rfl
      (fun other different => by simp [different]) (fun _ _ => rfl)
      (fun other _ => ⟨by simp [none], by simp [none]⟩)
      ⟨(safe loanId).once, (safe loanId).idle, fun going => absurd none going⟩
      (.expireRelease loanId) i
    exact ⟨safe', guar, restingₜ⟩

/-- In a run whose accesses are orderly, the provider accepts one send for a loan at most. -/
theorem collateral_sent_once {w₀ : World} {trace : List (Nat × Event World Answer Access)}
    {c : Config World Answer Access AppError Unit} (unsent : ∀ loanId, w₀.sends loanId = 0)
    (idle : ∀ loanId, w₀.releasing loanId = none) (run : Runs procedure w₀ trace c)
    (accesses : ∀ e ∈ trace, orderly e.2.label e.2.answer e.2.before = true) (loanId : Nat) :
    c.shared.sends loanId ≤ 1 := by
  have initial : ∀ loanId, Safe loanId w₀ := fun loanId =>
    ⟨by simp [unsent loanId], fun _ => .inl (unsent loanId), fun going => absurd (idle loanId) going⟩
  have rests (tid : Nat) (s t : World) (rely : Releasing tid s t) (rest : Resting tid s) :
      Resting tid t := fun id => rely.unheld id (rest id)
  have held := run.holds oneSend_sound (fun tid _ s t => rests tid s t)
    (fun tid _ s t => rests tid s t) initial (fun tid id => by simp [idle id])
    (fun tid op w _ resting => procedure_meets tid op w resting) accesses
  exact (held.inv loanId).once

def repaidLoan : Loan where
  userId := 0
  disbursementAccountId := 0
  collateralAmountSat := 250000
  principalNgn := 100000
  satNgnRateAtCreation := 1
  status := .repaid
  collateralReleaseAddress := some "customer@wallet"

def oneRepaidLoan : World where
  loans := [repaidLoan]

/-- The stamp of an accepted send fails, the lock is deleted, and the worker sends again. -/
def retryAfterLostStamp : List (Choice Operation Answer) :=
  [.start (.handOff 0), .run 0 {}, .run 0 {}, .run 0 { text := "hash-1" },
    .run 0 { fails := true }, .run 0 {},
    .start .runCollateralReleaseCycle, .run 1 {}, .run 1 {}, .run 1 {},
    .run 1 { text := "hash-2" }]

theorem collateral_sent_twice :
    ∃ trace c, Runs procedure oneRepaidLoan trace c ∧ ¬ c.shared.sends 0 ≤ 1 := by
  have played := exists_run procedure oneRepaidLoan retryAfterLostStamp
    (fun _ c => decide (c.shared.sends 0 = 2)) (by decide +kernel)
  obtain ⟨trace, c, run, checked⟩ := played
  have twice := of_decide_eq_true checked
  exact ⟨trace, c, run, by omega⟩

/-- The hand-off sends and stamps; the release by ops that comes later finds nothing to do. -/
def opsAfterRelease : List (Choice Operation Answer) :=
  [.start (.handOff 0), .run 0 {}, .run 0 {}, .run 0 { text := "hash" }, .run 0 { now := 9 },
    .run 0 {}, .run 0 {}, .run 0 {}, .start (.opsReleaseCollateral 0),
    .run 1 {}, .run 1 {}, .run 1 {}, .run 1 {}, .run 1 {}]

theorem collateral_sent_once_ops : ∃ trace c, Runs procedure oneRepaidLoan trace c ∧
    trace.length = 12 ∧ c.shared.sends 0 = 1 ∧ ∀ loanId, c.shared.sends loanId ≤ 1 := by
  have played := exists_run procedure oneRepaidLoan opsAfterRelease
    (fun trace c => decide (trace.length = 12 ∧ c.shared.sends 0 = 1 ∧
      ∀ e ∈ trace, orderly e.2.label e.2.answer e.2.before = true)) (by decide +kernel)
  obtain ⟨trace, c, run, checked⟩ := played
  obtain ⟨length, once, accesses⟩ := of_decide_eq_true checked
  exact ⟨trace, c, run, length, once,
    collateral_sent_once (fun _ => rfl) (fun _ => rfl) run accesses⟩

end Bitmonie.CollateralRelease
