import Bitmonie.ReleaseAddress

/-! Who changes a release address, and that the address of a released loan is the one its
collateral was sent to, when any number of calls are under way. -/
namespace Bitmonie.ReleaseAddress
open LoanStatusService CollateralRelease AuthService TransactionPinService StepUpService

/-- An update that moves the address finds a loan that is neither released nor being released,
and still without an address when its caller has read none; and the lock does not run out under a
call that goes on. -/
def calm (label : Access) (i : Answer) (w : World) : Bool :=
  match label with
  | .updateReleaseAddress loanId first address => i.fails || (w.loans[loanId]?).all fun loan =>
      loan.collateralReleaseAddress = some address ||
        (loan.collateralReleasedAt.isNone && (w.releasing loanId).isNone &&
          (!first || loan.collateralReleaseAddress.isNone))
  | .expireRelease loanId => (w.releasing loanId).isNone
  | _ => true

def undisturbed : BackendAccess → BackendAnswer → Backend → Bool
  | .inl label, i, b => calm label i.world b.world
  | .inr _, _, _ => true

/-- A loan that was released has the address that the collateral was sent to. -/
structure Bound (w : World) : Prop where
  locked : ∀ loanId, w.releasing loanId ≠ none → w.releaseLock loanId = true
  sent : ∀ (loanId : Nat) (loan : Loan), w.loans[loanId]? = some loan →
    loan.collateralReleasedAt ≠ none → loan.collateralReleaseAddress = w.sentTo loanId

abbrev Reserved : Nat → World → World → Prop :=
  Owned World.releasing fun w loanId => (w.sentTo loanId, w.loans[loanId]?)

/-- The release of a loan goes on with its owner and its address. -/
def Kept (s t : World) : Prop :=
  ∀ (loanId : Nat) (loan : Loan), s.loans[loanId]? = some loan → ∃ loan', t.loans[loanId]? = some loan' ∧
    loan'.userId = loan.userId ∧
    loan'.collateralReleaseAddress = loan.collateralReleaseAddress ∧
    (loan.collateralReleasedAt ≠ none → loan'.collateralReleasedAt ≠ none)

theorem Kept.refl (w : World) : Kept w w := fun _ loan found => ⟨loan, found, rfl, rfl, id⟩

def releases (tid : Nat) : Contract World Answer Access where
  inv := Bound
  allowed label i w := calm label i w = true
  rely := Reserved tid
  guar _ _ s t := (∀ other, tid ≠ other → Reserved other s t) ∧ Kept s t

section Loans
variable {tid loanId : Nat} {s t : World}

theorem still (tid : Nat) (label : Access) (i : Answer) (w : World) :
    (releases tid).guar label i w w := ⟨fun other _ => Owned.refl other w, .refl w⟩

def view (w : World) : List Loan × (Nat → Option Nat) × (Nat → Bool) × (Nat → Option String) :=
  (w.loans, w.releasing, w.releaseLock, w.sentTo)

theorem bound_of_view (bound : Bound s) (same : view t = view s) : Bound t := by
  simp only [view, Prod.mk.injEq] at same
  obtain ⟨loans, releasing, lock, sentTo⟩ := same
  constructor
  · rw [releasing, lock]
    exact bound.locked
  · rw [loans, sentTo]
    exact bound.sent

theorem guar_of_view {label : Access} {i : Answer} (same : view t = view s) :
    (releases tid).guar label i s t := by
  simp only [view, Prod.mk.injEq] at same
  obtain ⟨loans, releasing, _, sentTo⟩ := same
  refine ⟨fun other _ => .of_view releasing fun loanId _ => by rw [loans, sentTo], ?_⟩
  intro loanId loan found
  exact ⟨loan, loans ▸ found, rfl, rfl, id⟩

theorem leaves_complies {α : Type} {p : Action α} (leaves : p.Leaves view) :
    p.Complies (releases tid) :=
  leaves.complies fun _ _ _ _ same bound => ⟨bound_of_view bound same, guar_of_view same⟩

theorem clearAlert_leaves : (clearAlert loanId).Leaves view :=
  commit_leaves fun _ w _ w' wrote => by cases wrote; rfl

theorem maybeAlertOps_leaves : (maybeAlertOps loanId).Leaves view :=
  commit_leaves fun _ w _ w' wrote => by cases wrote; rfl

theorem going_reserved (rely : Reserved tid s t) (going : Going tid loanId s) :
    Going tid loanId t ∧ t.sentTo loanId = s.sentTo loanId ∧ t.loans[loanId]? = s.loans[loanId]? := by
  obtain ⟨mine, seen⟩ := rely.kept loanId going.mine
  obtain ⟨sentTo, row⟩ := Prod.mk.inj seen
  exact ⟨⟨mine, fun other different => rely.unheld other (going.others other different)⟩, sentTo, row⟩

theorem resting_reserved (rely : Reserved tid s t) (resting : Resting tid s) : Resting tid t :=
  fun other => rely.unheld other (resting other)

theorem eligible_address {found : Option Loan} {address : String}
    (due : eligible found = .ok address) : ∃ loan, found = some loan ∧
      loan.collateralReleasedAt = none ∧ loan.collateralReleaseAddress = some address := by
  obtain ⟨loan, rfl, unstamped⟩ := eligible_unstamped due
  refine ⟨loan, rfl, unstamped, ?_⟩
  simp only [eligible, unstamped] at due
  split at due
  · cases due
  cases stored : loan.collateralReleaseAddress with
  | none => simp [stored] at due
  | some other =>
    simp only [stored, ne_eq, not_true_eq_false, if_false] at due
    split at due
    · cases due
    · exact congrArg some (Except.ok.inj due)

/-- The row is held, so it is the one that was read when the provider is called. -/
theorem send_reserved {address : String} {loan : Loan} (going : Going tid loanId s)
    (found : s.loans[loanId]? = some loan) (unstamped : loan.collateralReleasedAt = none) :
    (sendToLightningAddress loanId address).Meets (releases tid)
      (fun _ t => Going tid loanId t ∧ t.loans[loanId]? = some loan ∧ t.sentTo loanId = some address)
      (fun _ => Going tid loanId) s := by
  rw [sendToLightningAddress, Proc.meets_access]
  intro t moved bound _ i _
  obtain ⟨going, _, row⟩ := going_reserved moved going
  have found := row.trans found
  cases i.fails with
  | true => exact ⟨bound, still tid _ i t, going⟩
  | false =>
    simp only [Bool.false_eq_true, if_false]
    refine ⟨⟨bound.locked, fun other loan' found' stamped => ?_⟩, ⟨fun other different => ?_, .refl t⟩, ?_⟩
    · by_cases same : other = loanId
      · subst same
        obtain rfl := Option.some.inj (found.symm.trans found')
        exact absurd unstamped stamped
      · simpa [same] using bound.sent other loan' found' stamped
    · exact .of_key loanId (fun k elsewhere => ⟨rfl, by simp [elsewhere]⟩)
        (going.not_other different) (going.not_other different)
    · have going' : Going tid loanId { t with
          sends := Function.update t.sends loanId (t.sends loanId + 1)
          sentTo := Function.update t.sentTo loanId (some address) } := ⟨going.mine, going.others⟩
      cases i.lost with
      | true => exact going'
      | false => exact ⟨going', found, by simp⟩

theorem stamp_reserved {userId : Nat} {reference : String} {loan : Loan} (going : Going tid loanId s)
    (found : s.loans[loanId]? = some loan) (unstamped : loan.collateralReleasedAt = none)
    (sent : loan.collateralReleaseAddress = s.sentTo loanId) :
    (stampRelease loanId userId reference).Meets (releases tid) (fun _ => Going tid loanId)
      (fun _ => Going tid loanId) s := by
  apply commit_meets
  intro t moved bound _ i _
  obtain ⟨going, sentTo, row⟩ := going_reserved moved going
  have present : t.loans[loanId]? = some loan := row.trans found
  obtain ⟨logs, wrote⟩ := @writeRelease_ok loanId userId reference i.now t loan present unstamped
  refine ⟨still tid _ i t, fun _ => going, fun _ _ => going, fun _ t' _ done => ?_⟩
  rw [wrote] at done
  obtain ⟨_, rfl⟩ := Prod.mk.inj (Except.ok.inj done)
  have going' : Going tid loanId { t with
      loans := t.loans.set loanId { loan with
        collateralReleasedAt := some i.now, collateralReleaseReference := some reference }
      statusLogs := logs } := ⟨going.mine, going.others⟩
  refine ⟨⟨bound.locked, fun other row' found' stamped => ?_⟩, ⟨fun other different => ?_, ?_⟩,
    fun _ => going', fun _ => going'⟩
  · rcases getElem?_set_cases found' with ⟨rfl, rfl⟩ | ⟨_, found'⟩
    · exact sent.trans sentTo.symm
    · exact bound.sent other row' found' stamped
  · exact .of_key loanId
      (fun k elsewhere => ⟨rfl, by simp [List.getElem?_set_ne (Ne.symm elsewhere)]⟩)
      (going.not_other different) (going.not_other different)
  · intro other row' found'
    by_cases same : other = loanId
    · subst same
      obtain rfl := Option.some.inj (present.symm.trans found')
      exact ⟨_, getElem?_set_of_eq present, rfl, rfl, fun _ => by simp⟩
    · exact ⟨row', (List.getElem?_set_ne (Ne.symm same)).trans found', rfl, rfl, id⟩

/-- What is not in the way of the release goes on with it. -/
theorem leaves_going {α : Type} {p : Action α} (leaves : p.Leaves view) (going : Going tid loanId s) :
    p.Meets (releases tid) (fun _ => Going tid loanId) (fun _ => Going tid loanId) s := by
  refine leaves.meets (fun _ _ rely going => (going_reserved rely going).1)
    (fun _ _ _ _ same bound => ⟨bound_of_view bound same, guar_of_view same⟩)
    (fun s t same going => ?_) going
  simp only [view, Prod.mk.injEq] at same
  exact ⟨same.2.1 ▸ going.mine, fun other different => same.2.1 ▸ going.others other different⟩

theorem releaseLocked_reserved (going : Going tid loanId s) :
    (releaseLocked loanId).Meets (releases tid) (fun _ => Going tid loanId)
      (fun _ => Going tid loanId) s := by
  rw [releaseLocked, Proc.meets_bind]
  apply query_meets
  intro t moved _ i _
  have goingₜ := (going_reserved moved going).1
  refine ⟨still tid .read i t, goingₜ, fun _ _ => goingₜ, fun found read => ?_⟩
  obtain rfl := Except.ok.inj read
  cases due : eligible t.loans[loanId]? with
  | error result => exact goingₜ
  | ok address =>
    obtain ⟨loan, present, unstamped, stored⟩ := eligible_address due
    simp only [Proc.meets_bind, Proc.meets_attempt]
    apply (send_reserved goingₜ present unstamped).imp
    · rintro reference u ⟨going, row, sentTo⟩
      rw [Proc.meets_catching]
      refine (stamp_reserved going row unstamped (stored.trans sentTo.symm)).seq fun _ v going => ?_
      refine (leaves_going clearAlert_leaves going).seq fun _ v going => ?_
      exact (leaves_going query_leaves going).seq fun _ _ going => going
    · intro e u going
      exact leaves_going maybeAlertOps_leaves going

/-- The lock of a loan is changed, with or without noting a call that goes on. -/
theorem lock_reserved (bound : Bound s) (loans : t.loans = s.loans) (sentTo : t.sentTo = s.sentTo)
    (locks : ∀ other, other ≠ loanId → t.releaseLock other = s.releaseLock other)
    (calls : ∀ other, other ≠ loanId → t.releasing other = s.releasing other)
    (mine : ∀ other, tid ≠ other → s.releasing loanId ≠ some other ∧ t.releasing loanId ≠ some other)
    (here : t.releasing loanId ≠ none → t.releaseLock loanId = true) (label : Access) (i : Answer) :
    Bound t ∧ (releases tid).guar label i s t := by
  refine ⟨⟨fun other going => ?_, ?_⟩, fun other different => ?_, ?_⟩
  · by_cases same : other = loanId
    · subst same
      exact here going
    · rw [locks other same]
      rw [calls other same] at going
      exact bound.locked other going
  · rw [loans, sentTo]
    exact bound.sent
  · obtain ⟨before, after⟩ := mine other different
    exact .of_key loanId (fun k elsewhere => ⟨calls k elsewhere, by rw [sentTo, loans]⟩) before after
  · intro other loan found
    exact ⟨loan, loans ▸ found, rfl, rfl, id⟩

theorem acquireLock_reserved (resting : Resting tid s) :
    (acquireLock tid loanId).Meets (releases tid)
      (fun acquired t => if acquired then Going tid loanId t else Resting tid t)
      (fun _ => Resting tid) s := by
  rw [acquireLock, Proc.meets_access]
  intro t moved bound _ i _
  have resting := resting_reserved moved resting
  cases i.fails with
  | true => exact ⟨bound, still tid _ i t, resting⟩
  | false =>
    cases locked : t.releaseLock loanId with
    | true =>
      simp only [Bool.false_eq_true, if_false, if_true]
      refine ⟨bound, still tid _ i t, ?_⟩
      cases i.lost <;> exact resting
    | false =>
      have idle : t.releasing loanId = none := by
        by_contra going
        exact absurd (bound.locked loanId going) (by simp [locked])
      have unheld (other : Nat) : t.releasing loanId ≠ some other := by simp [idle]
      cases i.lost with
      | true =>
        simp only [Bool.false_eq_true, if_false, if_true]
        have taken := @lock_reserved tid loanId t
          { t with releaseLock := Function.update t.releaseLock loanId true } bound rfl rfl
          (fun other different => by simp [different]) (fun _ _ => rfl)
          (fun other _ => ⟨unheld other, unheld other⟩) (fun _ => by simp) (.acquireRelease loanId) i
        exact ⟨taken.1, taken.2, resting⟩
      | false =>
        simp only [Bool.false_eq_true, if_false]
        have taken := @lock_reserved tid loanId t
          { t with
            releaseLock := Function.update t.releaseLock loanId true
            releasing := Function.update t.releasing loanId (some tid) } bound rfl rfl
          (fun other different => by simp [different]) (fun other different => by simp [different])
          (fun other different => ⟨unheld other, by simpa using different⟩) (fun _ => by simp)
          (.acquireRelease loanId) i
        refine ⟨taken.1, taken.2, by simp, fun other different => ?_⟩
        simpa [different] using resting other

theorem deleteLock_reserved (going : Going tid loanId s) {err : AppError → World → Prop} :
    (deleteLock tid loanId).Meets (releases tid) (fun _ => Resting tid) err s := by
  rw [deleteLock, Proc.meets_access]
  intro t moved bound _ i _
  obtain ⟨going, _, _⟩ := going_reserved moved going
  simp only [going.mine, if_true]
  have freed := @lock_reserved tid loanId t
    { t with
      releaseLock :=
        if i.fails then t.releaseLock else Function.update t.releaseLock loanId false
      releasing := Function.update t.releasing loanId none } bound rfl rfl
    (fun other different => by cases i.fails <;> simp [different])
    (fun other different => by simp [different])
    (fun other different => ⟨going.not_other different, by simp⟩) (by simp) (.deleteRelease loanId) i
  refine ⟨freed.1, freed.2, fun other => ?_⟩
  by_cases same : other = loanId
  · simp [same]
  · simpa [same] using going.others other same

theorem releaseForLoan_reserved (resting : Resting tid s) : (releaseForLoan tid loanId).Meets
    (releases tid) (fun _ => Resting tid) (fun _ => Resting tid) s := by
  refine (acquireLock_reserved resting).seq ?_
  intro acquired t taken
  cases acquired with
  | false => exact taken
  | true =>
    simp only [if_true] at taken ⊢
    rw [Proc.meets_finishing]
    exact (releaseLocked_reserved taken).imp (fun _ _ going => deleteLock_reserved going)
      fun _ _ going => deleteLock_reserved going

theorem expireLock_reserved (resting : Resting tid s) : (expireLock loanId).Meets (releases tid)
    (fun _ => Resting tid) (fun _ => Resting tid) s := by
  rw [expireLock, Proc.meets_access]
  intro t moved bound _ i allowed
  have resting := resting_reserved moved resting
  have idle : t.releasing loanId = none := Option.isNone_iff_eq_none.mp allowed
  have expired := @lock_reserved tid loanId t
    { t with releaseLock := Function.update t.releaseLock loanId false } bound rfl rfl
    (fun other different => by simp [different]) (fun _ _ => rfl)
    (fun other _ => ⟨by simp [idle], by simp [idle]⟩) (fun going => absurd idle going)
    (.expireRelease loanId) i
  exact ⟨expired.1, expired.2, resting⟩

def Rewrites (loanId : Nat) (first : Bool) (address : String) (s t : World) : Prop :=
  t = s ∨ ∃ loan, s.loans[loanId]? = some loan ∧ loan.collateralReleasedAt = none ∧
    s.releasing loanId = none ∧ (first = true → loan.collateralReleaseAddress = none) ∧
    t = { s with loans := s.loans.set loanId { loan with collateralReleaseAddress := some address } }

def updates (loanId : Nat) (first : Bool) (address : String) : Contract World Answer Access where
  inv _ := True
  allowed label i w := calm label i w = true
  rely _ _ := True
  guar _ _ := Rewrites loanId first address

theorem updateReleaseAddress_rewrites {first : Bool} {address : String} :
    (updateReleaseAddress loanId first address).Complies (updates loanId first address) := by
  intro s
  apply commit_meets
  intro t _ _ _ i allowed
  refine ⟨.inl rfl, fun _ => trivial, fun _ _ => trivial, fun _ t' made wrote => ?_⟩
  refine ⟨trivial, ?_, fun _ => trivial, fun _ => trivial⟩
  obtain ⟨loans, updated, -, rfl⟩ := map_pair_ok.mp wrote
  obtain ⟨loan, found, rfl⟩ := updateRow_ok.mp updated
  have fits : calm (.updateReleaseAddress loanId first address) i t = true := allowed
  simp only [calm, made, found, Bool.false_or, Option.all_some, Bool.or_eq_true, Bool.and_eq_true,
    decide_eq_true_eq, Option.isNone_iff_eq_none, Bool.not_eq_true'] at fits
  rcases fits with same | ⟨⟨unstamped, idle⟩, vacant⟩
  · -- The row stays as it is.
    obtain ⟨bound, rfl⟩ := List.getElem?_eq_some_iff.mp found
    exact .inl (by rw [← same, List.set_getElem_self])
  · refine .inr ⟨loan, found, unstamped, idle, fun isFirst => ?_, rfl⟩
    simpa [isFirst] using vacant

end Loans

def Grows (s t : AuthStore) : Prop := s.otpEvents ⊆ t.otpEvents ∧ s.factorEvents ⊆ t.factorEvents

theorem Grows.refl (s : AuthStore) : Grows s s := ⟨List.Subset.refl _, List.Subset.refl _⟩

theorem Grows.trans {r s t : AuthStore} (first : Grows r s) (second : Grows s t) : Grows r t :=
  ⟨List.Subset.trans first.1 second.1, List.Subset.trans first.2 second.2⟩

def grows : Contract AuthStore (Reply AuthReply) AuthAccess where
  inv _ := True
  allowed _ _ _ := True
  rely := Grows
  guar _ _ := Grows

def Consumed (tid : Nat) (key : OtpKey) (s : AuthStore) : Prop :=
  ∃ issue, ⟨.accepted, key, issue, tid⟩ ∈ s.otpEvents

def Verified (tid userId : Nat) (s : AuthStore) : Prop :=
  (∃ barred, .compared userId tid true barred ∈ s.factorEvents) ∨
    .totpVerified userId tid ∈ s.factorEvents

section Factors
variable {argon2 : Argon2} {tid userId : Nat} {key : OtpKey} {s t : AuthStore}

theorem Consumed.mono (grown : Grows s t) : Consumed tid key s → Consumed tid key t
  | ⟨issue, member⟩ => ⟨issue, grown.1 member⟩

theorem Verified.mono (grown : Grows s t) : Verified tid userId s → Verified tid userId t
  | .inl ⟨barred, member⟩ => .inl ⟨barred, grown.2 member⟩
  | .inr member => .inr (grown.2 member)

theorem access_grows {α : Type} {label : AuthAccess}
    {f : Reply AuthReply → AuthStore → Except AuthError α × AuthStore}
    (grown : ∀ i t, Grows t (f i t).2) : (Proc.access label (fun _ => true) f).Complies grows := by
  intro s
  rw [Proc.meets_access]
  intro t _ _ _ i _
  refine ⟨trivial, grown i t, ?_⟩
  rcases f i t with ⟨_ | _, _⟩ <;> trivial

theorem statement_grows {α : Type} {fault : AuthError} {label : AuthAccess}
    {f : AuthReply → AuthStore → Except AuthError α × AuthStore}
    (grown : ∀ reply t, Grows t (f reply t).2) : (statement fault label f).Complies grows := by
  refine access_grows fun i t => ?_
  have ticked : Grows t (Clocked.tick i.elapsed t) := .refl t
  cases i.fails with
  | true => exact ticked
  | false => exact ticked.trans (grown i.data _)

theorem noted_grows {kind : OtpEventKind} {issue : Nat} (same : t.otpEvents = s.otpEvents)
    (factors : t.factorEvents = s.factorEvents) : Grows s (noted kind key issue tid t) := by
  constructor
  · simp [noted, same]
  · simp [noted, factors]

theorem findUser_grows : (findUser userId).Complies grows := by
  refine statement_grows fun _ t => ?_
  cases t.users[userId]? <;> exact .refl t

theorem consumeOtp_consumes {otp : String} : (consumeOtp tid key otp).Meets grows
    (fun _ => Consumed tid key) (fun _ _ => True) s := by
  refine Proc.Meets.seq (statement_grows (fun _ t => .refl t) _) fun attempts t _ => ?_
  split
  · trivial
  refine Proc.Meets.seq (statement_grows (fun _ t => .refl t) _) fun stored t _ => ?_
  cases stored with
  | none => trivial
  | some code =>
    refine Proc.Meets.seq (statement_grows (fun _ t => noted_grows rfl rfl) _) fun _ t _ => ?_
    refine Proc.Meets.seq (statement_grows (fun _ t => .refl t) _) fun _ t _ => ?_
    refine Proc.Meets.seq (access_grows (fun i t => noted_grows rfl rfl) _) fun _ t _ => ?_
    refine Proc.Meets.seq (statement_grows (fun _ t => noted_grows rfl rfl) _) fun _ t _ => ?_
    refine Proc.Meets.seq (statement_grows (fun _ t => .refl t) _) fun _ t _ => ?_
    rw [acceptCode, Proc.meets_access]
    intro u _ _ _ i _
    exact ⟨trivial, noted_grows rfl rfl, code.issue, by simp [noted]⟩

theorem writeAttempts_grows {failedAttempts : Nat} {lockedUntil : Option Int} :
    (writeAttempts tid userId failedAttempts lockedUntil).Complies grows := by
  refine statement_grows fun _ t => ?_
  cases t.users[userId]? with
  | none => exact .refl t
  | some user =>
    constructor
    · exact List.Subset.refl _
    · cases lockedUntil <;> simp

theorem comparePin_verifies {user : User} {hash pin : String} :
    (comparePin argon2 tid userId user hash pin).Meets grows
      (fun verdict t => verdict.1 = true → Verified tid userId t) (fun _ _ => True) s := by
  rw [comparePin, Proc.meets_access]
  intro t _ _ _ i _
  dsimp only
  split
  · exact ⟨trivial, .refl t, trivial⟩
  · refine ⟨trivial, ⟨List.Subset.refl _, List.subset_append_left ..⟩, fun right => .inl ?_⟩
    exact ⟨_, List.mem_append_right _ (by rw [← right]; exact List.mem_singleton_self _)⟩

theorem verifyCurrentPinOrThrow_verifies {pin : String} :
    (verifyCurrentPinOrThrow argon2 tid userId pin).Meets grows (fun _ => Verified tid userId)
      (fun _ _ => True) s := by
  rw [verifyCurrentPinOrThrow]
  refine (findUser_grows s).seq ?_
  intro user t _
  cases user.transactionPinHash with
  | none => trivial
  | some hash =>
    dsimp only
    refine comparePin_verifies.seq ?_
    intro verdict t verified
    obtain ⟨ok, now⟩ := verdict
    cases ok with
    | true =>
      dsimp only
      rw [if_pos rfl]
      split
      · exact ((writeAttempts_grows t).frame (fun _ _ => Verified.mono) (fun _ _ _ _ => Verified.mono)
          (verified rfl)).imp (fun _ _ done => done.2) fun _ _ _ => trivial
      · exact verified rfl
    | false =>
      dsimp only
      rw [if_neg Bool.false_ne_true]
      split <;> exact (writeAttempts_grows t).seq fun _ _ _ => trivial

theorem verifyTotpForUser_verifies {totpCode : String} :
    (verifyTotpForUser tid userId totpCode).Meets grows (fun _ => Verified tid userId)
      (fun _ _ => True) s := by
  rw [verifyTotpForUser]
  refine (findUser_grows s).seq ?_
  intro user t _
  split
  · trivial
  rw [Proc.meets_access]
  intro t _ _ _ i _
  dsimp only
  split
  · exact ⟨trivial, ⟨List.Subset.refl _, List.subset_append_left ..⟩,
      .inr (List.mem_append_right _ (List.mem_singleton_self _))⟩
  · exact ⟨trivial, .refl t, trivial⟩

theorem assertHasAnyFactorConfigured_grows : (assertHasAnyFactorConfigured userId).Complies grows := by
  refine findUser_grows.bind fun user => ?_
  split <;> exact fun _ => trivial

theorem verifyTransactionFactor_verifies {factor : TransactionFactor} :
    (verifyTransactionFactor argon2 tid userId factor).Meets grows (fun _ => Verified tid userId)
      (fun _ _ => True) s := by
  rw [verifyTransactionFactor]
  refine (assertHasAnyFactorConfigured_grows s).seq ?_
  intro _ t _
  split
  · exact verifyCurrentPinOrThrow_verifies
  · exact verifyTotpForUser_verifies
  · trivial

theorem sendOtp_grows : (sendOtp key).Complies grows := by
  refine Proc.Complies.bind (statement_grows fun _ t => .refl t) fun _ => ?_
  refine Proc.Complies.bind (statement_grows fun _ t => .refl t) fun _ => ?_
  exact statement_grows fun _ t => .refl t

end Factors

/-- The call consumed a code for the address of the loan and verified a factor of the user. -/
def SteppedUp (tid userId loanId : Nat) (s : AuthStore) : Prop :=
  Consumed tid (.scopedOtpKey .releaseAddressChange userId (some loanId)) s ∧ Verified tid userId s

/-- What a step of the call does to a loan: one that has an address gets another one after a
step-up, and not after its release. -/
def Protects (tid : Nat) (s t : Backend) : Prop :=
  ∀ (loanId : Nat) (loan : Loan), s.world.loans[loanId]? = some loan →
    ∃ loan', t.world.loans[loanId]? = some loan' ∧ loan'.userId = loan.userId ∧
      (loan.collateralReleaseAddress ≠ none →
        loan'.collateralReleaseAddress ≠ loan.collateralReleaseAddress →
          SteppedUp tid loan.userId loanId s.auth) ∧
      (loan.collateralReleasedAt ≠ none → loan'.collateralReleasedAt ≠ none ∧
        loan'.collateralReleaseAddress = loan.collateralReleaseAddress)

def Owner (userId loanId : Nat) (b : Backend) : Prop :=
  ∃ loan, b.world.loans[loanId]? = some loan ∧ loan.userId = userId

structure Relies (tid : Nat) (s t : Backend) : Prop where
  reserved : Reserved tid s.world t.world
  owners : ∀ userId loanId, Owner userId loanId s → Owner userId loanId t
  grown : Grows s.auth t.auth

def protecting : Discipline Backend BackendAnswer BackendAccess where
  inv b := Bound b.world
  allowed label i b := undisturbed label i b = true
  fresh tid b := Resting tid b.world
  rely := Relies
  guar tid _ _ s t := (∀ other, tid ≠ other → Reserved other s.world t.world) ∧
    Protects tid s t ∧ Grows s.auth t.auth

theorem Protects.owner {tid userId loanId : Nat} {s t : Backend} (protects : Protects tid s t)
    (owner : Owner userId loanId s) : Owner userId loanId t := by
  obtain ⟨loan, found, rfl⟩ := owner
  obtain ⟨loan', found', same, _⟩ := protects loanId loan found
  exact ⟨loan', found', same⟩

theorem Relies.trans {tid : Nat} {r s t : Backend} (first : Relies tid r s) (second : Relies tid s t) :
    Relies tid r t where
  reserved := first.reserved.trans second.reserved
  owners userId loanId owner := second.owners userId loanId (first.owners userId loanId owner)
  grown := first.grown.trans second.grown

theorem protecting_sound : protecting.Sound where
  refl tid b := ⟨Owned.refl tid b.world, fun _ _ owner => owner, .refl b.auth⟩
  trans _ _ _ _ := Relies.trans
  compatible _ other _ _ _ _ different _ guar :=
    ⟨guar.1 other different, fun _ _ => guar.2.1.owner, guar.2.2⟩
  fresh _ _ _ rely resting := resting_reserved rely.reserved resting

section Backends
variable {argon2 : Argon2} {tid userId loanId : Nat} {b : Backend}

theorem onLoans_meets {α : Type} {p : Action α} {post : α → World → Prop}
    {err : AppError → World → Prop} (meets : p.Meets (releases tid) post err b.world) :
    (onLoans p).Meets (protecting.contract tid) (fun a t => post a t.world) (fun _ _ => True) b := by
  have always : (fun _ : Backend => True) b := trivial
  have zoomed : (p.zoom loanPart).Meets (protecting.contract tid)
      (fun a t => post a (loanPart.get t) ∧ True) (fun _ _ => True) b := by
    refine Proc.Meets.zoom ?_ ?_ ?_ always meets
    · exact fun s t rely _ => ⟨rely.reserved, trivial⟩
    · exact fun label i t bound _ allowed => ⟨bound, allowed⟩
    intro label i t u _ _ bound guar
    refine ⟨bound, ⟨guar.1, ?_, .refl t.auth⟩, trivial⟩
    intro other loan found
    obtain ⟨loan', found', owner, address, stamped⟩ := guar.2 other loan found
    exact ⟨loan', found', owner, fun _ moved => absurd address moved,
      fun released => ⟨stamped released, address⟩⟩
  exact zoomed.imp (fun _ _ ended => ended.1) fun _ _ _ => trivial

theorem onAuth_meets {α : Type} {p : AuthAction α} {post : α → AuthStore → Prop} {kept : Backend → Prop}
    (stays : ∀ s t : Backend, (∀ userId loanId, Owner userId loanId s → Owner userId loanId t) →
      Grows s.auth t.auth → kept s → kept t) (here : kept b)
    (meets : p.Meets grows post (fun _ _ => True) b.auth) :
    (onAuth p).Meets (protecting.contract tid) (fun a t => post a t.auth ∧ kept t)
      (fun _ _ => True) b := by
  have zoomed : (p.zoom authPart).Meets (protecting.contract tid)
      (fun a t => post a (authPart.get t) ∧ kept t) (fun _ => kept) b := by
    refine Proc.Meets.zoom ?_ ?_ ?_ here meets
    · exact fun s t rely here => ⟨rely.grown, stays s t rely.owners rely.grown here⟩
    · exact fun _ _ _ _ _ _ => ⟨trivial, trivial⟩
    intro label i t u bound here _ grown
    refine ⟨bound, ⟨fun other _ => Owned.refl other t.world, fun other loan found => ?_, grown⟩,
      stays t _ (fun _ _ owner => owner) grown here⟩
    exact ⟨loan, found, rfl, fun _ moved => absurd rfl moved, fun released => ⟨released, rfl⟩⟩
  exact zoomed.imp (fun _ _ ended => ended) fun _ _ _ => trivial

theorem Rewrites.bound {first : Bool} {address : String} {s t : World} (bound : Bound s)
    (rewrites : Rewrites loanId first address s t) : Bound t := by
  rcases rewrites with rfl | ⟨loan, found, unstamped, idle, _, rfl⟩
  · exact bound
  refine ⟨bound.locked, fun other loan' found' stamped => ?_⟩
  rcases getElem?_set_cases found' with ⟨rfl, rfl⟩ | ⟨_, found'⟩
  · exact absurd unstamped stamped
  · exact bound.sent other loan' found' stamped

/-- Nobody releases the loan, so the row is reserved by nobody. -/
theorem Rewrites.reserved {first : Bool} {address : String} {s t : World}
    (rewrites : Rewrites loanId first address s t) (other : Nat) : Reserved other s t := by
  rcases rewrites with rfl | ⟨loan, found, unstamped, idle, _, rfl⟩
  · exact Owned.refl other t
  · exact .of_key loanId
      (fun k elsewhere => ⟨rfl, by simp [List.getElem?_set_ne (Ne.symm elsewhere)]⟩)
      (by simp [idle]) (by simp [idle])

theorem Rewrites.protects {first : Bool} {address : String} {t : World}
    (rewrites : Rewrites loanId first address b.world t) (owner : Owner userId loanId b)
    (stepped : first = false → SteppedUp tid userId loanId b.auth) :
    Protects tid b { b with world := t } := by
  rcases rewrites with rfl | ⟨loan, found, unstamped, idle, vacant, rfl⟩
  · exact fun other loan found => ⟨loan, found, rfl, fun _ moved => absurd rfl moved,
      fun released => ⟨released, rfl⟩⟩
  intro other row found'
  by_cases same : other = loanId
  · subst same
    obtain rfl := Option.some.inj (found.symm.trans found')
    obtain ⟨owned, there, rfl⟩ := owner
    obtain rfl := Option.some.inj (found.symm.trans there)
    refine ⟨_, getElem?_set_of_eq found, rfl, fun has _ => ?_, fun released => absurd unstamped released⟩
    cases first with
    | true => exact absurd (vacant rfl) has
    | false => exact stepped rfl
  · exact ⟨row, (List.getElem?_set_ne (Ne.symm same)).trans found', rfl,
      fun _ moved => absurd rfl moved, fun released => ⟨released, rfl⟩⟩

theorem updateReleaseAddress_meets {first : Bool} {address : String} (owner : Owner userId loanId b)
    (stepped : first = false → SteppedUp tid userId loanId b.auth) :
    (onLoans (updateReleaseAddress loanId first address)).Meets (protecting.contract tid)
      (fun _ _ => True) (fun _ _ => True) b := by
  let kept (b : Backend) : Prop :=
    Owner userId loanId b ∧ (first = false → SteppedUp tid userId loanId b.auth)
  have here : kept b := ⟨owner, stepped⟩
  have rewritten : (updateReleaseAddress loanId first address).Meets (updates loanId first address)
      (fun _ _ => True) (fun _ _ => True) (loanPart.get b) := updateReleaseAddress_rewrites b.world
  have zoomed : ((updateReleaseAddress loanId first address).zoom loanPart).Meets
      (protecting.contract tid) (fun _ t => True ∧ kept t) (fun _ => kept) b := by
    refine Proc.Meets.zoom ?_ ?_ ?_ here rewritten
    · refine fun s t rely here => ⟨trivial, rely.owners _ _ here.1, fun changes => ?_⟩
      exact (here.2 changes).imp (Consumed.mono rely.grown) (Verified.mono rely.grown)
    · exact fun label i t _ _ allowed => ⟨trivial, allowed⟩
    intro label i t u bound here _ rewrites
    have protects := rewrites.protects here.1 here.2
    exact ⟨rewrites.bound bound, ⟨fun other _ => rewrites.reserved other, protects, .refl t.auth⟩,
      protects.owner here.1, here.2⟩
  exact zoomed.imp (fun _ _ _ => trivial) fun _ _ _ => trivial

theorem findLoan_meets : (onLoans (findLoan userId loanId)).Meets (protecting.contract tid)
    (fun found t => ∀ loan, found = some loan → Owner userId loanId t) (fun _ _ => True) b := by
  have reads : (findLoan userId loanId).Meets (releases tid) (fun found w => ∀ loan, found = some loan →
      ∃ row, w.loans[loanId]? = some row ∧ row.userId = userId) (fun _ _ => True) b.world := by
    apply query_meets
    intro t _ _ i _
    refine ⟨still tid .read i t, trivial, fun _ _ => trivial, fun found read loan same => ?_⟩
    obtain rfl := Except.ok.inj read
    obtain ⟨there, owned⟩ := Option.filter_eq_some_iff.mp same
    exact ⟨loan, there, by simpa using owned⟩
  exact (onLoans_meets reads).imp (fun _ _ owner => owner) fun _ _ _ => trivial

/-- A change comes after the code and the factor. -/
theorem stepUp_meets {options : SetReleaseAddressOptions} (owner : Owner userId loanId b) :
    (stepUp argon2 tid userId loanId options).Meets (protecting.contract tid)
      (fun _ t => Owner userId loanId t ∧ SteppedUp tid userId loanId t.auth) (fun _ _ => True) b := by
  rw [stepUp]
  refine (onAuth_meets (fun s t owners _ owner => owners _ _ owner) owner
    (assertHasAnyFactorConfigured_grows _)).seq ?_
  rintro _ t ⟨_, owner⟩
  cases submitted options.emailOtp with
  | none => trivial
  | some emailOtp =>
    dsimp only
    refine (onAuth_meets (fun s t owners _ owner => owners _ _ owner) owner
      consumeOtp_consumes).seq ?_
    rintro _ u ⟨consumed, owner⟩
    let kept (b : Backend) : Prop := Owner userId loanId b ∧
      Consumed tid (.scopedOtpKey .releaseAddressChange userId (some loanId)) b.auth
    have here : kept u := ⟨owner, consumed⟩
    apply (onAuth_meets (fun s t owners grown here => ⟨owners _ _ here.1, here.2.mono grown⟩) here
      verifyTransactionFactor_verifies).imp _ fun _ _ _ => trivial
    exact fun _ v ended => ⟨ended.2.1, ended.2.2, ended.1⟩

theorem clearAlert_meets : ((onLoans (clearAlert loanId)).catching fun _ => .pure ()).Meets
    (protecting.contract tid) (fun _ _ => True) (fun _ _ => True) b := by
  rw [Proc.meets_catching]
  exact onLoans_meets (leaves_complies clearAlert_leaves b.world)

theorem setReleaseAddress_meets {address : String} {options : SetReleaseAddressOptions} :
    (setReleaseAddress argon2 tid userId loanId address options).Meets (protecting.contract tid)
      (fun _ _ => True) (fun _ _ => True) b := by
  rw [setReleaseAddress]
  refine findLoan_meets.seq ?_
  intro found t owner
  cases found with
  | none => trivial
  | some loan =>
    have owner := owner loan rfl
    dsimp only
    cases loan.collateralReleasedAt with
    | some releasedAt => trivial
    | none =>
      have stepped : (if loan.collateralReleaseAddress.isSome then stepUp argon2 tid userId loanId options
          else .pure ()).Meets (protecting.contract tid) (fun _ t => Owner userId loanId t ∧
            (loan.collateralReleaseAddress.isNone = false → SteppedUp tid userId loanId t.auth))
          (fun _ _ => True) t := by
        cases loan.collateralReleaseAddress with
        | none => exact ⟨owner, fun impossible => by cases impossible⟩
        | some old =>
          exact (stepUp_meets owner).imp (fun _ _ done => ⟨done.1, fun _ => done.2⟩) fun _ _ _ => trivial
      dsimp only
      refine stepped.seq ?_
      rintro _ u ⟨owner, stepped⟩
      refine (updateReleaseAddress_meets owner stepped).seq ?_
      intro _ v _
      split
      · exact clearAlert_meets
      · trivial

theorem requestReleaseAddressChangeOtp_meets :
    (requestReleaseAddressChangeOtp userId loanId).Meets (protecting.contract tid)
      (fun _ _ => True) (fun _ _ => True) b := by
  rw [requestReleaseAddressChangeOtp]
  refine findLoan_meets.seq ?_
  intro found t _
  cases found with
  | none => trivial
  | some loan =>
    dsimp only
    cases loan.collateralReleasedAt with
    | some releasedAt => trivial
    | none =>
      dsimp only
      split
      · trivial
      · have always : (fun _ : Backend => True) t := trivial
        have sends : (sendReleaseAddressChangeOtp userId loanId).Complies grows :=
          findUser_grows.bind fun _ => sendOtp_grows
        exact (onAuth_meets (fun _ _ _ _ _ => trivial) always (sends t.auth)).imp
          (fun _ _ _ => trivial) fun _ _ _ => trivial

theorem procedure_meets {operation : Operation} (resting : Resting tid b.world) :
    (procedure argon2 tid operation).Meets (protecting.contract tid) (fun _ _ => True)
      (fun _ _ => True) b := by
  cases operation with
  | setReleaseAddress userId loanId address options => exact setReleaseAddress_meets
  | requestReleaseAddressChangeOtp userId loanId => exact requestReleaseAddressChangeOtp_meets
  | releaseForLoan loanId =>
    have released : ((releaseForLoan tid loanId).bind fun _ => .pure ()).Meets (releases tid)
        (fun (_ : Unit) _ => True) (fun _ => Resting tid) b.world :=
      (releaseForLoan_reserved resting).seq fun _ _ _ => trivial
    exact onLoans_meets released
  | expireLock loanId =>
    exact (onLoans_meets (expireLock_reserved resting)).imp (fun _ _ _ => trivial) fun _ _ _ => trivial

end Backends

/-- No release goes on, and the loans that were released have the address of the send. -/
structure Started (w : World) : Prop where
  idle : ∀ loanId, w.releasing loanId = none
  sent : ∀ (loanId : Nat) (loan : Loan), w.loans[loanId]? = some loan →
    loan.collateralReleasedAt ≠ none → loan.collateralReleaseAddress = w.sentTo loanId

/-- An address is only changed by a call that has stepped up, and not after the release; and a
released loan has the address that the collateral was sent to, in every run that nothing
disturbs. -/
theorem release_address_protected {argon2 : Argon2} {start : Backend} (started : Started start.world)
    {trace : List (Nat × Event Backend BackendAnswer BackendAccess)}
    {c : Config Backend BackendAnswer BackendAccess BackendError Unit}
    (run : Runs (procedure argon2) start trace c)
    (calm : ∀ e ∈ trace, undisturbed e.2.label e.2.answer e.2.before = true) :
    (∀ e ∈ trace, Protects e.1 e.2.before e.2.after) ∧
    ∀ (loanId : Nat) (loan : Loan), c.shared.world.loans[loanId]? = some loan →
      loan.collateralReleasedAt ≠ none →
        loan.collateralReleaseAddress = c.shared.world.sentTo loanId := by
  have bound : Bound start.world := ⟨fun loanId going => absurd (started.idle loanId) going, started.sent⟩
  have held : protecting.Holds (fun _ _ _ => True) (fun _ _ _ => True) trace c :=
    run.holds protecting_sound (fun _ _ _ _ _ _ => trivial) (fun _ _ _ _ _ _ => trivial)
      bound (fun tid loanId => by simp [started.idle loanId])
      (fun _ _ _ _ resting => procedure_meets resting) calm
  exact ⟨fun e member => (held.events e member).2.2.2.1, held.inv.sent⟩

def repaid (address : Option String) : Backend where
  world := { loans := [{ repaidLoan with collateralReleaseAddress := address }] }
  auth := { now := 0, users := [{ email := "ada@example.com", transactionPinHash := some "2580" }] }

theorem repaid_started (address : Option String) : Started (repaid address).world where
  idle _ := rfl
  sent loanId loan found stamped := by
    rw [List.mem_singleton.mp (List.mem_of_getElem? found)] at stamped
    exact absurd rfl stamped

def accesses (tid number : Nat) : List (Choice Operation BackendAnswer) :=
  List.replicate number (.run tid { auth := { data := { random := 123456 } } })

/-- The address is changed with a code and the PIN, and then the collateral is released. -/
def changeThenRelease : List (Choice Operation BackendAnswer) :=
  .start (.requestReleaseAddressChangeOtp 0 0) :: accesses 0 5 ++
    .start (.setReleaseAddress 0 0 "new@wallet"
      { emailOtp := some "123456", factor := { transactionPin := some "2580" } }) :: accesses 1 15 ++
    .start (.releaseForLoan 0) :: accesses 2 7

theorem release_address_protected_sample :
    ∃ trace c, Runs (procedure .plain) (repaid (some "old@wallet")) trace c ∧
      (∀ e ∈ trace, Protects e.1 e.2.before e.2.after) ∧ c.shared.world.sentTo 0 = some "new@wallet" := by
  obtain ⟨trace, c, run, checked⟩ := exists_run (procedure .plain) (repaid (some "old@wallet")) changeThenRelease
    (fun trace c => trace.all (fun e => undisturbed e.2.label e.2.answer e.2.before) &&
      (c.shared.world.loans[0]?).any fun loan => loan.collateralReleasedAt.isSome &&
        loan.collateralReleaseAddress = some "new@wallet") (by decide +kernel)
  simp only [Bool.and_eq_true, List.all_eq_true, Option.any_eq_true, decide_eq_true_eq] at checked
  obtain ⟨calm, loan, found, stamped, moved⟩ := checked
  obtain ⟨steps, sent⟩ := release_address_protected (repaid_started _) run calm
  have released : loan.collateralReleasedAt ≠ none := Option.isSome_iff_ne_none.mp stamped
  exact ⟨trace, c, run, steps, (sent 0 loan found released).symm.trans moved⟩

/-- Two calls read that there is no address; the second one writes after the release. -/
def twoFirstAddresses : List (Choice Operation BackendAnswer) :=
  [.start (.setReleaseAddress 0 0 "ada@wallet" {}), .start (.setReleaseAddress 0 0 "eve@wallet" {})] ++
    accesses 0 1 ++ accesses 1 1 ++ accesses 0 1 ++ .start (.releaseForLoan 0) :: accesses 2 7 ++
    accesses 1 1

/-- The step replaces the first address by the other one. -/
def redirects (s t : Backend) : Bool :=
  decide (s.auth.otpEvents = []) &&
    decide ((s.world.loans[0]?).map (·.collateralReleaseAddress) = some (some "ada@wallet")) &&
    decide ((t.world.loans[0]?).map (·.collateralReleaseAddress) = some (some "eve@wallet"))

theorem not_protects_of_redirects {tid : Nat} {s t : Backend} (redirected : redirects s t = true) :
    ¬ Protects tid s t := by
  simp only [redirects, Bool.and_eq_true, decide_eq_true_eq, Option.map_eq_some_iff] at redirected
  obtain ⟨⟨nothing, loan, found, old⟩, row, found', new⟩ := redirected
  intro protects
  obtain ⟨loan', same, _, stepped, _⟩ := protects 0 loan found
  obtain rfl := Option.some.inj (found'.symm.trans same)
  obtain ⟨⟨issue, accepted⟩, _⟩ := stepped (by simp [old]) (by simp [old, new])
  simp [nothing] at accepted

theorem address_redirected : ∃ trace c, Runs (procedure .plain) (repaid none) trace c ∧
    (∃ e ∈ trace, ¬ Protects e.1 e.2.before e.2.after) ∧
    ∃ loan, c.shared.world.loans[0]? = some loan ∧ loan.collateralReleasedAt ≠ none ∧
      loan.collateralReleaseAddress ≠ c.shared.world.sentTo 0 := by
  obtain ⟨trace, c, run, checked⟩ := exists_run (procedure .plain) (repaid none) twoFirstAddresses
    (fun trace c => trace.any (fun e => redirects e.2.before e.2.after) &&
      (c.shared.world.loans[0]?).any fun (loan : Loan) => loan.collateralReleasedAt.isSome &&
        decide (loan.collateralReleaseAddress ≠ c.shared.world.sentTo 0)) (by decide +kernel)
  simp only [Bool.and_eq_true, List.any_eq_true, Option.any_eq_true, decide_eq_true_eq] at checked
  obtain ⟨⟨e, member, redirected⟩, loan, there, stamped, other⟩ := checked
  exact ⟨trace, c, run, ⟨e, member, not_protects_of_redirects redirected⟩, loan, there,
    Option.isSome_iff_ne_none.mp stamped, other⟩

end Bitmonie.ReleaseAddress
