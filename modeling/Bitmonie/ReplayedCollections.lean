import Bitmonie.CollectionAccounting
import Bitmonie.CollectionTrust

/-! The script that replays collections which the webhook once dropped, beside the webhook
itself and the customers. What JSON and the schema make of a stored body is given; the flags
of a replay are those of the run of the script that makes it. -/
namespace Bitmonie.ReplayDroppedPalmpayCollections
open LoansService PalmpayProvider OpsAlertsService PalmpayCollectionVaWebhook
open CollectionAccounting (Stored)
open CollectionLedger (Answered Matched Agreed Untouched OwnedBy Chosen Refused Ended Opened Trace
  ledgers sameContents unused_stable refused_stable oneActiveLoan oneActiveLoan_opened settledWith)
open CollectionTrust (Kept Used OnConfirmed Confirmed ConfirmedCredit Unopened trust claimsVerified
  sameAccount)

structure CliArgs where
  applying : Bool
  alertOps : Bool
  skipRequery : Bool

inductive RawBody where
  | invalidJson
  | offSchema
  | notification (payload : CollectionNotification)

structure Candidate where
  logId : Nat
  rawBody : RawBody

inductive Decision where
  | credited | skipped | mismatch | unmatched | parseFailed | requeryFailed | alreadyCredited
  deriving DecidableEq, Repr

structure ReplayOutcome where
  logId : Nat
  orderNo : Option String
  decision : Decision
  detail : String
  loanId : Option Nat := none
  amountNgn : Option String := none
  deriving DecidableEq

/-- An outcome, with what the call of `creditInflow` answered. -/
abbrev Replay := ReplayOutcome × Answered

/-- Unlike the webhook's, it upserts: a stored row is left as it is. -/
def storeUnmatchedInflow (payload : CollectionNotification) (userId : Option Nat)
    (reason : UnmatchedReason) (alertOps : Bool) : Action Unit :=
  (commit (.storeUnmatchedInflow payload.orderNo reason) (fun _ => true) fun i w =>
    .ok ((), (upsertInflow (unmatchedInflow payload userId reason i.now) w).2)).bind fun _ =>
  if alertOps then alertUnmatchedInflow payload.orderNo reason else .pure ()

def persistTag (applying : Bool) (reason : UnmatchedReason) (userId : Option Nat) : String :=
  if applying then "(persisted) " ++ reason.name
  else "(dry-run) would persist as " ++ reason.name ++
    if userId.isSome then "" else " (no user_id)"

def amountText (payload : CollectionNotification) : String := toFixed 2 (amountNgn payload)

def leaveUnmatched (args : CliArgs) (logId : Nat) (payload : CollectionNotification)
    (userId : Option Nat) (reason : UnmatchedReason) : Action Replay :=
  (if args.applying then storeUnmatchedInflow payload userId reason args.alertOps
    else .pure ()).bind fun _ =>
  .pure (⟨logId, some payload.orderNo, .unmatched, persistTag args.applying reason userId ++
    (if reason = .multipleActiveLoans then
      " — customer disambiguates via POST /v1/inflows/:inflow_id/apply" else ""),
    none, some (amountText payload)⟩, none)

def statusName : CollectionOrderStatus → String
  | .successful => "successful"
  | .failed => "failed"
  | .notFound => "not_found"
  | .unknown => "unknown"

/-- Stricter than the webhook: an order that cannot be found, or without an amount, is a
mismatch. -/
def requeryMismatch (payload : CollectionNotification) (verified : CollectionOrder) :
    Option String :=
  if verified.status ≠ .successful then some ("requery_status=" ++ statusName verified.status)
  else if verified.amountKobo ≠ some payload.orderAmount then
    some ("amount_kobo webhook=" ++ toString payload.orderAmount ++ " requery=" ++
      (verified.amountKobo.map toString).getD "null")
  else if !blank verified.virtualAccountNo ∧
      verified.virtualAccountNo ≠ payload.virtualAccountNo then
    some ("va webhook=" ++ payload.virtualAccountNo.getD "" ++ " requery=" ++
      verified.virtualAccountNo.getD "")
  else none

/-- Why the order is not credited; nothing is asked under `--skip-requery`. -/
def requery (skipRequery : Bool) (payload : CollectionNotification) :
    Action (Option (Decision × String)) :=
  if skipRequery then .pure none
  else
    (getCollectionOrderStatus payload).attempt.bind fun verified =>
    .pure (match verified with
      | .error e => some (.requeryFailed, e.message)
      | .ok order => (requeryMismatch payload order).map fun detail => (.mismatch, detail))

/-- Upsert the inflow, then run `creditInflow`. -/
def creditDropped (tid logId : Nat) (payload : CollectionNotification) (userId loanId : Nat) :
    Action Replay :=
  (commit (upsertAccess payload userId) (fun _ => true) fun i w =>
    .ok (upsertInflow (verifiedInflow payload userId false i.now) w)).bind fun inflow =>
  if inflow.2.isMatched then
    .pure (⟨logId, some payload.orderNo, .alreadyCredited,
      "inflow " ++ toString inflow.1 ++ " already matched (race)", none, none⟩, none)
  else
    (creditInflow tid
      { inflowId := inflow.1
        loanId := loanId
        amountNgn := amountNgn payload
        matchMethod := .autoAmount }).attempt.bind fun credit =>
    match credit with
    | .ok result =>
      .pure (⟨logId, some payload.orderNo, .credited,
        "loan " ++ toString loanId ++ " → " ++ result.newStatus.name ++ " (outstanding=" ++
          result.outstandingNgn ++ ")", some loanId, some (amountText payload)⟩, some credit)
    | .error e =>
      (alertUnmatchedInflow payload.orderNo .creditFailed).bind fun _ =>
      .pure (⟨logId, some payload.orderNo, .mismatch, "creditInflow threw: " ++ e.message,
        some loanId, some (amountText payload)⟩, some credit)

def replayNotification (tid : Nat) (args : CliArgs) (logId : Nat)
    (payload : CollectionNotification) : Action Replay :=
  if payload.orderStatus ≠ collectionStatusSuccess then
    .pure (⟨logId, some payload.orderNo, .skipped, "orderStatus=" ++ toString payload.orderStatus,
      none, none⟩, none)
  else if blank payload.virtualAccountNo then
    .pure (⟨logId, some payload.orderNo, .skipped, "missing virtualAccountNo", none, none⟩, none)
  else
    (query fun _ w => .ok (findRow w.inflows fun inflow =>
      inflow.providerReference = payload.orderNo)).bind fun existingInflow =>
    match existingInflow.filter fun row => row.2.isMatched with
    | some inflow =>
      .pure (⟨logId, some payload.orderNo, .alreadyCredited,
        "inflow " ++ toString inflow.1 ++ " already matched", none, none⟩, none)
    | none =>
      (query fun _ w => .ok (findRow w.repaymentAccounts fun account =>
        some account.virtualAccountNo = payload.virtualAccountNo)).bind fun repaymentAccount =>
      match repaymentAccount with
      -- The webhook does not store a collection into an unknown account; the script does.
      | none => leaveUnmatched args logId payload none .noUserForVa
      | some account =>
        -- Below the floor the script does not ask whether the amount closes a loan.
        if amountNgn payload < minPartialRepaymentNgn then
          leaveUnmatched args logId payload (some account.2.userId) .belowFloor
        else
          (selectLoan payload account.2.userId).bind fun matchedLoan =>
          match matchedLoan with
          | .error reason => leaveUnmatched args logId payload (some account.2.userId) reason
          | .ok loanId =>
            (requery args.skipRequery payload).bind fun refused =>
            match refused with
            | some (decision, detail) =>
              .pure (⟨logId, some payload.orderNo, decision, detail, none, none⟩, none)
            | none =>
              if args.applying then creditDropped tid logId payload account.2.userId loanId
              else
                .pure (⟨logId, some payload.orderNo, .credited,
                  "(dry-run) would credit loan " ++ toString loanId, some loanId,
                  some (amountText payload)⟩, none)

def replayOne (tid : Nat) (args : CliArgs) (candidate : Candidate) : Action Replay :=
  match candidate.rawBody with
  | .invalidJson =>
    .pure (⟨candidate.logId, none, .parseFailed, "raw_body is not valid JSON", none, none⟩, none)
  | .offSchema =>
    .pure (⟨candidate.logId, none, .parseFailed, "collection schema validation failed", none,
      none⟩, none)
  | .notification payload => replayNotification tid args candidate.logId payload

inductive Operation where
  | live (op : CollectionLedger.Operation)
  | replay (candidate : Candidate)

abbrev Ending := Option ReplayOutcome × Answered

def procedure (args : Nat → CliArgs) (tid : Nat) : Operation → Action Ending
  | .live op => (CollectionLedger.procedure tid op).bind fun answered => .pure (none, answered)
  | .replay candidate =>
    (replayOne tid (args tid) candidate).bind fun replay => .pure (some replay.1, replay.2)

abbrev Reached := Config World Answer Access AppError Ending

/-- Both ledgers of collections; a procedure also relies on repayments that stay. -/
def books (agree confirming : Prop) : Discipline World Answer Access :=
  ((ledgers agree).both (trust confirming False)).relying fun s t => s.repayments <+: t.repayments

def Paid (inflowId loanId : Nat) (amountNgn : ℚ) (w : World) : Prop :=
  ∃ r ∈ w.repayments, r.inflowId = inflowId ∧ r.loanId = loanId ∧ r.amountNgn = amountNgn

/-- A matched inflow of the order, by its repayment if it is naira. -/
def CreditedBefore (orderNo : String) (w : World) : Prop :=
  ∃ id inflow, w.inflows[id]? = some inflow ∧ inflow.providerReference = orderNo ∧
    (inflow.currency = .ngn → ∃ r ∈ w.repayments, r.inflowId = id)

/-- A loan that was repaid meanwhile takes nothing, and the credit returns all the same. -/
def tookNothing (loanId : Nat) : Answered :=
  some (.ok ⟨loanId, .repaid, "0", "0", "0", "0", "0"⟩)

/-- What a replay that applies says of its order, read off the books. -/
def Accounted (applying : Bool) (replay : Replay) (w : World) : Prop :=
  ∀ orderNo, replay.1.orderNo = some orderNo →
    (replay.1.decision = .alreadyCredited → CreditedBefore orderNo w) ∧
    (replay.1.decision = .unmatched → applying = true → ∃ id, Stored orderNo id w) ∧
    (replay.1.decision = .credited → applying = true → ∃ id loanId amountNgn,
      Stored orderNo id w ∧ replay.1.loanId = some loanId ∧
        replay.1.amountNgn = some (toFixed 2 amountNgn) ∧
        (replay.2 = tookNothing loanId ∨ Paid id loanId amountNgn w))

section Contract
variable {agree confirming : Prop} {tid : Nat}

theorem books_sound : (books agree confirming).Sound :=
  (CollectionLedger.ledgers_sound.both CollectionTrust.trust_sound).relying
    (fun _ => List.prefix_rfl) (fun _ _ _ => List.IsPrefix.trans)
    fun _ _ _ _ _ guar => guar.1.2.2.2.1

abbrev contract (agree confirming : Prop) (tid : Nat) : Contract World Answer Access :=
  (books agree confirming).contract tid

/-- What meets both disciplines of collections meets the books. -/
theorem meets_books {p : Action α} {post post' : α → World → Prop} {err err' : AppError → World → Prop}
    {w : World} (first : p.Meets (CollectionLedger.contract agree tid) post err w)
    (second : p.Meets (CollectionTrust.contract confirming False tid) post' err' w) :
    p.Meets (contract agree confirming tid) (fun a t => post a t ∧ post' a t)
      (fun e t => err e t ∧ err' e t) w :=
  Proc.Meets.relying (d := (ledgers agree).both (trust confirming False)) (first.both second)

theorem still (label : Access) (i : Answer) (w : World) :
    (contract agree confirming tid).guar label i w w :=
  ⟨@CollectionLedger.still agree tid label i w, @CollectionTrust.still confirming False tid label i w⟩

/-- A read, by a replay that has not credited. -/
theorem query_books {f : Answer → World → Except AppError α} {w : World} {post : α → World → Prop}
    (unused : tid ∉ w.credited)
    (read : ∀ t i a, (contract agree confirming tid).rely w t → (contract agree confirming tid).inv t →
      tid ∉ t.credited → f i t = .ok a → post a t) :
    (query f).Meets (contract agree confirming tid) post (Refused tid) w := by
  apply query_meets
  intro t moved inv i _
  have unusedₜ : tid ∉ t.credited := @unused_stable agree tid w t moved.1.1 unused
  exact ⟨still .read i t, fun _ => unusedₜ, fun _ _ _ => unusedₜ,
    fun a result => read t i a moved inv unusedₜ result⟩

theorem stored_kept {orderNo : String} {id : Nat} {s t : World} (kept : Kept s t)
    (stored : Stored orderNo id s) : Stored orderNo id t := by
  obtain ⟨inflow, found, named⟩ := stored
  obtain ⟨inflow', found', order, -⟩ := kept.inflow id inflow found
  exact ⟨inflow', found', order.trans named⟩

theorem Paid.mono {inflowId loanId : Nat} {amountNgn : ℚ} {s t : World}
    (grown : s.repayments <+: t.repayments) (paid : Paid inflowId loanId amountNgn s) :
    Paid inflowId loanId amountNgn t := by
  obtain ⟨r, member, here⟩ := paid
  exact ⟨r, grown.subset member, here⟩

theorem CreditedBefore.mono {orderNo : String} {s t : World} (kept : Kept s t)
    (grown : s.repayments <+: t.repayments) (credited : CreditedBefore orderNo s) :
    CreditedBefore orderNo t := by
  obtain ⟨id, inflow, found, named, paid⟩ := credited
  obtain ⟨inflow', found', order, -, currency, -⟩ := kept.inflow id inflow found
  refine ⟨id, inflow', found', order.trans named, fun ngn => ?_⟩
  obtain ⟨r, member, of⟩ := paid (currency ▸ ngn)
  exact ⟨r, grown.subset member, of⟩

theorem Accounted.mono {applying : Bool} {replay : Replay} {s t : World} (kept : Kept s t)
    (grown : s.repayments <+: t.repayments) (accounted : Accounted applying replay s) :
    Accounted applying replay t := by
  intro orderNo named
  obtain ⟨before, unmatched, credited⟩ := accounted orderNo named
  refine ⟨fun decided => (before decided).mono kept grown, fun decided asked => ?_,
    fun decided asked => ?_⟩
  · exact (unmatched decided asked).imp fun _ => stored_kept kept
  · obtain ⟨id, loanId, amountNgn, stored, loan, amount, taken⟩ := credited decided asked
    exact ⟨id, loanId, amountNgn, stored_kept kept stored, loan, amount, taken.imp_right (.mono grown)⟩

def Concluded (applying : Bool) (tid : Nat) (ending : Ending) (w : World) : Prop :=
  Ended tid ending.2 w ∧ ∀ outcome, ending.1 = some outcome →
    Accounted applying (outcome, ending.2) w

theorem concluded_stable {applying : Bool} (ending : Ending) (s t : World)
    (moved : (contract agree confirming tid).rely s t) (concluded : Concluded applying tid ending s) :
    Concluded applying tid ending t :=
  ⟨@CollectionLedger.ended_stable agree tid ending.2 s t moved.1.1 concluded.1,
    fun outcome named => (concluded.2 outcome named).mono moved.1.2 moved.2⟩

/-- Nothing is asked of others but that repayments stay. -/
def growing : Contract World Answer Access where
  inv _ := True
  allowed _ _ _ := True
  rely s t := s.repayments <+: t.repayments
  guar _ _ _ _ := True

/-- What holds where a procedure ends while repayments stay holds there by the books. -/
theorem observing_books {p : Action α} {post post' : α → World → Prop}
    {err err' : AppError → World → Prop} {w : World}
    (meets : p.Meets (contract agree confirming tid) post err w) (seen : p.Meets growing post' err' w) :
    p.Meets (contract agree confirming tid) (fun a t => post a t ∧ post' a t)
      (fun e t => err e t ∧ err' e t) w :=
  meets.observing (fun _ _ moved => moved.2) (fun _ _ => trivial) (fun _ _ _ _ => trivial) seen

theorem creditBody_pays {params : CreditParams} {w : World} :
    (creditBody tid params).Meets growing (fun done t => done.1 = alreadyRepaidResult params ∨
      Paid params.inflowId params.loanId params.amountNgn t) (fun _ _ => True) w := by
  rw [creditBody, Proc.meets_bind]
  refine query_meets fun t _ _ i _ => ⟨trivial, trivial, fun _ _ => trivial, fun read _ => ?_⟩
  rw [Proc.meets_bind]
  rcases planned : planCredit params.amountNgn read.2 read.1.1 read.1.2 with e | _ | credit
  · trivial
  · exact .inl rfl
  · simp only [Proc.ofExcept, Proc.meets_pure, Proc.meets_bind]
    refine commit_meets fun u _ _ _ j _ => ⟨trivial, fun _ => trivial, fun _ _ => trivial,
      fun _ u' _ done => ⟨trivial, trivial, fun _ => .inr ?_, fun _ => trivial⟩⟩
    obtain ⟨v, wrote, -, rfl⟩ := map_pair_ok.mp done
    obtain ⟨_, _, _, _, rfl⟩ := (writeCredit_ok (planCredit_ok planned).1 wrote).eq
    exact ⟨repaymentRow params credit j.now, by simp, rfl, rfl, rfl⟩

/-- A credit that returns has paid, or found its loan repaid. -/
theorem creditInflow_pays {params : CreditParams} {w : World} :
    (creditInflow tid params).Meets growing (fun result t => result = alreadyRepaidResult params ∨
      Paid params.inflowId params.loanId params.amountNgn t) (fun _ _ => True) w := by
  rw [creditInflow, Proc.meets_bind]
  cases floorCheck params with
  | error e => trivial
  | ok =>
    simp only [Proc.ofExcept, Proc.meets_pure, Proc.meets_bind]
    apply @lockingLoan_meets _ _ _ _ _ _ _ _ (fun done t => done.1 = alreadyRepaidResult params ∨
      Paid params.inflowId params.loanId params.amountNgn t) (fun _ _ => True)
    · exact fun t _ _ _ _ _ => ⟨trivial, trivial, trivial, fun _ _ =>
        ⟨trivial, trivial, creditBody_pays⟩⟩
    · refine fun s t moved _ i _ => ⟨fun done taken => ⟨trivial, trivial, ?_⟩,
        fun _ _ => ⟨trivial, trivial, trivial⟩⟩
      have there := taken.imp_right (Paid.mono moved)
      cases done.2 with
      | none => exact there
      | some receipt =>
        rw [Proc.meets_bind]
        exact query_meets fun u later _ j _ => ⟨trivial, trivial, fun _ _ => trivial,
          fun _ _ => there.imp_right (Paid.mono later)⟩

/-- The row that an upsert returns is the one that is stored under its order. -/
theorem upsert_stored {payload : CollectionNotification} {label : Access} {row : Answer → Inflow}
    {w : World} (named : ∀ i, (row i).providerReference = payload.orderNo) :
    (commit label (fun _ => true) fun i w => .ok (upsertInflow (row i) w)).Meets growing
      (fun inflow t => t.inflows[inflow.1]? = some inflow.2 ∧
        inflow.2.providerReference = payload.orderNo) (fun _ _ => True) w := by
  refine commit_meets fun t _ _ _ i _ => ⟨trivial, fun _ => trivial, fun _ _ => trivial,
    fun inflow t' _ done => ⟨trivial, trivial, fun _ => ?_, fun _ => trivial⟩⟩
  have upserted := Except.ok.inj done
  unfold upsertInflow at upserted
  split at upserted
  · rename_i stored first
    obtain ⟨rfl, rfl⟩ := Prod.mk.inj upserted
    obtain ⟨present, reference⟩ := findRow_some first
    exact ⟨present, (of_decide_eq_true reference).trans (named i)⟩
  · obtain ⟨rfl, rfl⟩ := Prod.mk.inj upserted
    exact ⟨by simp, named i⟩

theorem creditedBefore_of {payload : CollectionNotification} {id : Nat} {inflow : Inflow} {w : World}
    (used : Used w) (found : w.inflows[id]? = some inflow)
    (named : inflow.providerReference = payload.orderNo) (matched : inflow.isMatched = true) :
    CreditedBefore payload.orderNo w :=
  ⟨id, inflow, found, named, fun ngn => used id inflow found ngn matched⟩

theorem page_books {alert : OpsAlert} {kept : World → Prop} {w : World} (here : kept w)
    (stable : ∀ s t, (CollectionLedger.contract agree tid).rely s t → kept s → kept t)
    (calls : ∀ s t, t.credited = s.credited → kept s → kept t) :
    (page alert).Meets (contract agree confirming tid) (fun _ => kept) (Refused tid) w :=
  (meets_books (CollectionLedger.page_ledgers here stable calls) CollectionTrust.page_trust).imp
    (fun _ _ ended => ended.1) fun _ _ ended => ended.1

theorem creditDropped_books {applying : Bool} {logId : Nat} {payload : CollectionNotification}
    {userId loanId : Nat} {w : World} {virtualAccountNo : String}
    (inv : (contract agree confirming tid).inv w) (unused : tid ∉ w.credited)
    (owned : OwnedBy userId loanId w) (account : payload.virtualAccountNo = some virtualAccountNo)
    (confirmed : confirming →
      Confirmed payload.orderNo (amountNgn payload) virtualAccountNo w) :
    (creditDropped tid logId payload userId loanId).Meets (contract agree confirming tid)
      (fun replay => Concluded applying tid (some replay.1, replay.2)) (Refused tid) w := by
  rw [creditDropped, Proc.meets_bind]
  have upserted := (observing_books (meets_books
    (@CollectionLedger.upsert_ledgers agree tid userId loanId payload false w unused owned)
    (@CollectionTrust.upsert_trust confirming False tid payload userId false w _ account confirmed))
    (upsert_stored fun _ => rfl)).invariant inv
  apply upserted.imp
  swap
  · exact fun _ _ failed _ => failed.1.1.1
  rintro inflow t ⟨⟨⟨⟨unusedₜ, came⟩, credited⟩, present, named⟩, invₜ⟩
  cases matched : inflow.2.isMatched with
  | true =>
    refine ⟨unusedₜ, fun outcome same orderNo ordered => ?_⟩
    obtain rfl := Option.some.inj same
    obtain rfl := Option.some.inj ordered
    exact ⟨fun _ => creditedBefore_of invₜ.2.1 present named matched, by simp, by simp⟩
  | false =>
    simp only [Bool.false_eq_true, if_false, Proc.meets_bind, Proc.meets_attempt]
    have basis : CollectionTrust.Basis confirming False
        ⟨inflow.1, loanId, amountNgn payload, .autoAmount, false⟩ t :=
      ⟨fun asked => credited asked matched, fun impossible => impossible.elim⟩
    have paid := observing_books (meets_books
      (CollectionLedger.creditInflow_ledgers unusedₜ fun asked => came asked matched)
      (CollectionTrust.creditInflow_trust basis)) creditInflow_pays
    have stored : Stored payload.orderNo inflow.1 t := ⟨inflow.2, present, named⟩
    apply (paid.frame (fun _ _ moved => stored_kept moved.1.2)
      (fun _ _ _ _ guar => stored_kept guar.2.1) stored).imp
    · rintro result u ⟨⟨-, taken⟩, storedᵤ⟩
      refine ⟨trivial, fun outcome same orderNo ordered => ?_⟩
      obtain rfl := Option.some.inj same
      obtain rfl := Option.some.inj ordered
      refine ⟨by simp, by simp, fun _ _ => ⟨inflow.1, loanId, amountNgn payload, storedᵤ, rfl, rfl, ?_⟩⟩
      exact taken.imp_left fun nothing => by rw [nothing]; rfl
    · rintro e u ⟨⟨⟨refused, -⟩, -⟩, -⟩
      rw [alertUnmatchedInflow]
      apply (page_books refused (@refused_stable agree tid e)
        fun s t calls refused other => calls ▸ refused other).imp _ fun _ _ refused => refused
      exact fun _ v refusedᵥ => ⟨refusedᵥ, fun outcome same => by
        obtain rfl := Option.some.inj same
        exact fun _ _ => ⟨by simp, by simp, by simp⟩⟩

theorem storeUnmatchedInflow_books {payload : CollectionNotification} {userId : Option Nat}
    {reason : UnmatchedReason} {alertOps : Bool} {w : World} (unused : tid ∉ w.credited) :
    (storeUnmatchedInflow payload userId reason alertOps).Meets (contract agree confirming tid)
      (fun _ t => tid ∉ t.credited ∧ ∃ id, Stored payload.orderNo id t) (Refused tid) w := by
  have stored : (commit (.storeUnmatchedInflow payload.orderNo reason) (fun _ => true) fun i w =>
      .ok ((), (upsertInflow (unmatchedInflow payload userId reason i.now) w).2)).Meets
      (contract agree confirming tid)
      (fun _ t => tid ∉ t.credited ∧ ∃ id, Stored payload.orderNo id t) (Refused tid) w := by
    refine commit_meets fun t moved inv _ i _ => ?_
    have unusedₜ : tid ∉ t.credited := @unused_stable agree tid w t moved.1.1 unused
    refine ⟨still _ i t, fun _ _ => unusedₜ, fun _ _ _ => unusedₜ, fun _ t' _ done => ?_⟩
    obtain ⟨-, rfl⟩ := Prod.mk.inj (Except.ok.inj done)
    unfold upsertInflow
    split
    · rename_i row first
      obtain ⟨present, reference⟩ := findRow_some first
      exact ⟨inv, still _ i t, fun _ => ⟨unusedₜ, row.1, row.2, present, of_decide_eq_true reference⟩,
        fun _ _ => unusedₜ⟩
    · rename_i missing
      have free := CollectionTrust.isStored_of_findRow missing
      obtain ⟨invₗ, guarₗ⟩ := @CollectionLedger.append_ledgers agree tid t
        (unmatchedInflow payload userId reason i.now)
        (.storeUnmatchedInflow payload.orderNo reason) i rfl inv.1
      obtain ⟨invₜ, guarₜ⟩ := @CollectionTrust.append_trust confirming False tid t
        (unmatchedInflow payload userId reason i.now)
        (.storeUnmatchedInflow payload.orderNo reason) i rfl free (fun _ none => nomatch none) inv.2
      exact ⟨⟨invₗ, invₜ⟩, ⟨guarₗ, guarₜ⟩, fun _ => ⟨unusedₜ, t.inflows.length,
        CollectionAccounting.stored_last rfl⟩, fun _ _ => unusedₜ⟩
  rw [storeUnmatchedInflow, Proc.meets_bind]
  apply (stored).imp _ fun _ _ refused => refused
  rintro _ t ⟨unusedₜ, id, storedₜ⟩
  cases alertOps with
  | false => exact ⟨unusedₜ, id, storedₜ⟩
  | true =>
    simp only [if_true, alertUnmatchedInflow]
    apply ((@page_books agree confirming tid _ (fun t => tid ∉ t.credited) t unusedₜ unused_stable
      fun _ _ calls unused => calls ▸ unused).frame (fun _ _ moved => stored_kept moved.1.2)
      (fun _ _ _ _ guar => stored_kept guar.2.1) storedₜ).imp
    · exact fun _ _ ended => ⟨ended.1, id, ended.2⟩
    · exact fun _ _ refused => refused.1

theorem leaveUnmatched_books {args : CliArgs} {logId : Nat} {payload : CollectionNotification}
    {userId : Option Nat} {reason : UnmatchedReason} {w : World} (unused : tid ∉ w.credited) :
    (leaveUnmatched args logId payload userId reason).Meets (contract agree confirming tid)
      (fun replay => Concluded args.applying tid (some replay.1, replay.2)) (Refused tid) w := by
  have concludes {t : World} (unusedₜ : tid ∉ t.credited)
      (stored : args.applying = true → ∃ id, Stored payload.orderNo id t) (detail : String) :
      Concluded args.applying tid (some ⟨logId, some payload.orderNo, .unmatched, detail, none,
        some (amountText payload)⟩, none) t := by
    refine ⟨unusedₜ, fun outcome same orderNo ordered => ?_⟩
    obtain rfl := Option.some.inj same
    obtain rfl := Option.some.inj ordered
    exact ⟨by simp, fun _ => stored, by simp⟩
  rw [leaveUnmatched, Proc.meets_bind]
  cases asked : args.applying with
  | false =>
    rw [asked] at concludes
    exact concludes unused (by simp) _
  | true =>
    rw [asked] at concludes
    apply (storeUnmatchedInflow_books unused).imp _ fun _ _ refused => refused
    exact fun _ t ended => concludes ended.1 (fun _ => ended.2) _

/-- The strict check passes only what the webhook's check confirms. -/
theorem requeryMismatch_none {payload : CollectionNotification} {verified : CollectionOrder}
    (passed : requeryMismatch payload verified = none) : confirms payload verified = true := by
  unfold requeryMismatch at passed
  split at passed
  · cases passed
  rename_i settled
  split at passed
  · cases passed
  rename_i amount
  split at passed
  · cases passed
  rename_i account
  have exactly : verified.amountKobo = some payload.orderAmount := not_not.mp amount
  have here : blank verified.virtualAccountNo = false →
      verified.virtualAccountNo = payload.virtualAccountNo := by simpa using account
  rw [confirms, not_not.mp settled]
  cases empty : blank verified.virtualAccountNo with
  | true => simp [exactly, requeryAmountToleranceKobo]
  | false => simp [exactly, requeryAmountToleranceKobo, here empty]

theorem requery_books {skipRequery : Bool} {payload : CollectionNotification} {userId loanId : Nat}
    {w : World} {virtualAccountNo : String} (unused : tid ∉ w.credited)
    (inv : (contract agree confirming tid).inv w) (owned : OwnedBy userId loanId w)
    (account : payload.virtualAccountNo = some virtualAccountNo)
    (asks : confirming → skipRequery = false) :
    (requery skipRequery payload).Meets (contract agree confirming tid)
      (fun refused t => (tid ∉ t.credited ∧ OwnedBy userId loanId t ∧ (refused = none → confirming →
        Confirmed payload.orderNo (amountNgn payload) virtualAccountNo t) ∧
        ∀ refusal, refused = some refusal →
          refusal.1 = .requeryFailed ∨ refusal.1 = .mismatch) ∧
            (contract agree confirming tid).inv t) (Refused tid) w := by
  cases skipRequery with
  | true => exact ⟨⟨unused, owned, fun _ asked => absurd (asks asked) (by simp), by simp⟩, inv⟩
  | false =>
    have asked := meets_books
      (@CollectionLedger.getCollectionOrderStatus_ledgers agree tid payload
        (fun t => tid ∉ t.credited ∧ OwnedBy userId loanId t) w ⟨unused, owned⟩
        (fun s t moved here => ⟨unused_stable s t moved here.1, here.2.mono moved.1⟩)
        fun _ _ here => here)
      (@CollectionTrust.getCollectionOrderStatus_trust confirming False tid payload w _ account)
    simp only [requery, Bool.false_eq_true, if_false, Proc.meets_bind, Proc.meets_attempt]
    apply (asked.invariant inv).imp
    · rintro order t ⟨⟨⟨unusedₜ, ownedₜ⟩, confirmed⟩, invₜ⟩
      refine ⟨⟨unusedₜ, ownedₜ, fun passed _ => confirmed (requeryMismatch_none ?_),
        fun refusal same => ?_⟩, invₜ⟩
      · simpa using passed
      · obtain ⟨_, _, rfl⟩ := Option.map_eq_some_iff.mp same
        exact .inr rfl
    · rintro e t ⟨⟨⟨unusedₜ, ownedₜ⟩, -⟩, invₜ⟩
      refine ⟨⟨unusedₜ, ownedₜ, fun passed => (by cases passed), fun refusal same => ?_⟩, invₜ⟩
      obtain rfl := Option.some.inj same
      exact .inl rfl

/-- An outcome that leaves the order where it was. -/
theorem concluded_skip {applying : Bool} {outcome : ReplayOutcome} {w : World}
    (unused : tid ∉ w.credited) (other : outcome.decision ≠ .alreadyCredited ∧
      outcome.decision ≠ .unmatched ∧ (outcome.decision = .credited → applying = false)) :
    Concluded applying tid (some outcome, none) w := by
  refine ⟨unused, fun outcome' same orderNo _ => ?_⟩
  obtain rfl := Option.some.inj same
  refine ⟨fun before => absurd before other.1, fun unmatched => absurd unmatched other.2.1,
    fun credited asked => ?_⟩
  rw [other.2.2 credited] at asked
  cases asked

theorem replayNotification_books {args : CliArgs} {logId : Nat} {payload : CollectionNotification}
    {w : World} (unused : tid ∉ w.credited) (asks : confirming → args.skipRequery = false) :
    (replayNotification tid args logId payload).Meets (contract agree confirming tid)
      (fun replay => Concluded args.applying tid (some replay.1, replay.2)) (Refused tid) w := by
  unfold replayNotification
  split
  · exact concluded_skip unused (by simp)
  split
  · exact concluded_skip unused (by simp)
  rename_i named
  obtain ⟨virtualAccountNo, account⟩ : ∃ va, payload.virtualAccountNo = some va := by
    cases account : payload.virtualAccountNo with
    | none => simp [blank, account] at named
    | some va => exact ⟨va, rfl⟩
  rw [Proc.meets_bind]
  apply query_books unused
  intro t i existing _ invₜ unusedₜ read
  split
  · rename_i row matched
    obtain ⟨first, chosen⟩ := Option.filter_eq_some_iff.mp matched
    rw [← Except.ok.inj read] at first
    obtain ⟨present, reference⟩ := findRow_some first
    refine ⟨unusedₜ, fun outcome same orderNo ordered => ?_⟩
    obtain rfl := Option.some.inj same
    obtain rfl := Option.some.inj ordered
    exact ⟨fun _ => creditedBefore_of invₜ.2.1 present (of_decide_eq_true reference) chosen,
      by simp, by simp⟩
  rw [Proc.meets_bind]
  apply query_books unusedₜ
  intro u _ repaymentAccount _ invᵤ unusedᵤ _
  split
  · exact leaveUnmatched_books unusedᵤ
  rename_i owner _
  split
  · exact leaveUnmatched_books unusedᵤ
  have looks : (selectLoan payload owner.2.userId).Looks fun _ => True := by
    refine (query_looks trivial).bind fun activeLoans => ?_
    rcases activeLoans with _ | ⟨loanId, _ | ⟨_, _⟩⟩
    · trivial
    · trivial
    · exact (query_looks trivial).bind fun _ => trivial
  have selects := (meets_books (@CollectionLedger.selectLoan_ledgers agree tid owner.2.userId payload
    u unusedᵤ) (@Proc.Looks.meets _ _ _ _ _ (CollectionTrust.contract confirming False tid) _ _ u
      (fun _ => True) looks (fun _ _ _ h => h) (fun label i t _ => CollectionTrust.still label i t)
      trivial)).invariant invᵤ
  rw [Proc.meets_bind]
  apply selects.imp _ fun _ _ failed => failed.1.1
  rintro selected v ⟨⟨⟨unusedᵥ, owned⟩, -⟩, invᵥ⟩
  cases selected with
  | error reason => exact leaveUnmatched_books unusedᵥ
  | ok loanId =>
    simp only [Proc.meets_bind]
    apply (requery_books unusedᵥ invᵥ (owned loanId rfl) account asks).imp _ fun _ _ refused => refused
    rintro refused x ⟨⟨unusedₓ, ownedₓ, confirmed, other⟩, invₓ⟩
    cases refused with
    | some refusal =>
      apply concluded_skip unusedₓ
      rcases other refusal rfl with failed | mismatch
      · simp [failed]
      · simp [mismatch]
    | none =>
      cases asked : args.applying with
      | true => exact creditDropped_books invₓ unusedₓ ownedₓ account (confirmed rfl)
      | false => exact concluded_skip unusedₓ (by simp)

theorem procedure_books {args : Nat → CliArgs} (op : Operation) {w : World}
    (unused : tid ∉ w.credited) (asks : confirming → (args tid).skipRequery = false) :
    (procedure args tid op).Meets (contract agree confirming tid)
      (Concluded (args tid).applying tid) (Refused tid) w := by
  cases op with
  | live op =>
    rw [procedure, Proc.meets_bind]
    apply (meets_books (CollectionLedger.procedure_ledgers tid op unused)
      (CollectionTrust.procedure_trust op w)).imp
    · exact fun answered t ended => ⟨ended.1, fun _ none => nomatch none⟩
    · exact fun _ _ failed => failed.1
  | replay candidate =>
    rw [procedure, Proc.meets_bind, replayOne]
    split
    · exact ⟨unused, fun outcome same orderNo named => by
        obtain rfl := Option.some.inj same
        cases named⟩
    · exact ⟨unused, fun outcome same orderNo named => by
        obtain rfl := Option.some.inj same
        cases named⟩
    · exact replayNotification_books unused asks

end Contract

theorem holds {agree confirming : Prop} {args : Nat → CliArgs} {w₀ : World} {trace : Trace}
    {c : Reached} (opened : Opened w₀) (onConfirmed : confirming → OnConfirmed w₀)
    (run : Runs (procedure args) w₀ trace c)
    (asks : confirming → ∀ tid, (args tid).skipRequery = false)
    (contents : agree → ∀ e ∈ trace, sameContents e.2.label e.2.answer e.2.before = true)
    (verified : confirming → ∀ e ∈ trace, claimsVerified e.2.label e.2.answer e.2.before = true ∧
      sameAccount e.2.label e.2.answer e.2.before = true) :
    (books agree confirming).Holds (fun tid => Concluded (args tid).applying tid) Refused trace c := by
  have matched : Matched w₀ := by
    refine ⟨by simp [opened.repayments], by simp [opened.repayments], fun id inflow found ngn _ => ?_⟩
    have unmatched := opened.unmatched inflow (List.mem_of_getElem? found) ngn
    simp [opened.repayments, unmatched]
  have agreed : Agreed w₀ := by simp [Agreed, opened.repayments]
  have used : Used w₀ := fun id inflow found ngn matched => by
    rw [opened.unmatched inflow (List.mem_of_getElem? found) ngn] at matched
    cases matched
  exact run.holds books_sound (fun tid => @concluded_stable agree confirming tid (args tid).applying)
    (fun tid e s t moved => @refused_stable agree tid e s t moved.1.1)
    ⟨⟨matched, fun _ => agreed⟩, used, onConfirmed, fun impossible => impossible.elim⟩
    (fun tid => ⟨by simp [ledgers, opened.credited], trivial⟩)
    (fun tid op w _ unused => procedure_books op unused.1 fun asked => asks asked tid)
    fun e member => ⟨fun asked => contents asked e member, fun asked => verified asked e member,
      fun impossible => impossible.elim⟩

def NotCredited : Proc World Answer Access AppError Ending → Prop
  | .pure (_, none) => True
  | .pure (_, some (.error e)) => e ≠ .unavailable
  | .throw e => e ≠ .unavailable
  | _ => False

/-- What holds of collections in every state that is reached, replays included. -/
structure CreditedOnce (w₀ : World) (trace : Trace) (c : Reached) : Prop where
  once : (c.shared.repayments.map (·.inflowId)).Nodup
  marked : ∀ (id : Nat) (inflow : Inflow), c.shared.inflows[id]? = some inflow →
    inflow.currency = .ngn → ∀ loanId,
      inflow.isMatched = true ∧ inflow.sourceId = some loanId ↔
        ∃ r ∈ c.shared.repayments, r.inflowId = id ∧ r.loanId = loanId
  kept : ∀ first rest, trace = first ++ rest →
    (stateAfter w₀ first).repayments <+: c.shared.repayments
  refused : ∀ tid p, c.pool[tid]? = some p → NotCredited p →
    ∀ e ∈ trace, e.1 = tid → Untouched e.2.before e.2.after

/-- Replays, with any flags and beside deliveries, claims and applies of the same orders,
credit each collection once. -/
theorem replays_credit_once {args : Nat → CliArgs} {w₀ : World} {trace : Trace} {c : Reached}
    (opened : Opened w₀) (run : Runs (procedure args) w₀ trace c) : CreditedOnce w₀ trace c := by
  have held := @holds False False args w₀ trace c opened (fun impossible => impossible.elim) run
    (fun impossible => impossible.elim) (fun impossible => impossible.elim)
    fun impossible => impossible.elim
  have guars (e : Nat × Event World Answer Access) (member : e ∈ trace) :
      (ledgers False).guar e.1 e.2.label e.2.answer e.2.before e.2.after :=
    (held.events e member).2.2.1
  have later (first rest : Trace) (split : trace = first ++ rest) :
      (stateAfter w₀ first).repayments <+: c.shared.repayments ∧
        (stateAfter w₀ first).credited <:+ c.shared.credited := by
    apply run.keeps (fun w => (stateAfter w₀ first).repayments <+: w.repayments ∧
      (stateAfter w₀ first).credited <:+ w.credited) ?_ split ⟨List.prefix_rfl, List.suffix_rfl⟩
    rintro e member ⟨rows, past⟩
    obtain ⟨_, _, calls, grown, _⟩ := guars e member
    exact ⟨rows.trans grown, past.trans calls⟩
  refine ⟨held.inv.1.1.once, held.inv.1.1.marked, fun first rest split => (later first rest split).1,
    fun tid p found without e member same => ?_⟩
  obtain ⟨first, rest, split⟩ := List.append_of_mem member
  have past := (later (first ++ [e]) rest (by simp [split])).2
  rw [stateAfter_append] at past
  subst same
  apply (guars e member).2.2.2.2
  intro credited
  have here : e.1 ∈ c.shared.credited := past.subset credited
  have ended := held.pool e.1 p found
  cases p with
  | pure ending =>
    obtain ⟨_, _ | _ | _⟩ := ending
    · exact ended.1 here
    · exact ended.1 without here
    · exact without
  | throw e => exact ended without here
  | step _ _ _ => exact without

def applied (skipRequery : Bool) : Nat → CliArgs := fun _ => ⟨true, false, skipRequery⟩

def dropped (orderAmount : Int) : Operation :=
  .replay ⟨0, .notification ⟨"order-1", 1, orderAmount, some "0100000001", some "signature"⟩⟩

def reports (decision : Decision) : Option (Proc World Answer Access AppError Ending) → Bool
  | some (.pure (some outcome, _)) => outcome.decision = decision
  | _ => false

/-- A replay of the order past its upsert, and a delivery of it that credits first. -/
def replayAmidDelivery : List (Choice Operation Answer) :=
  [.start (dropped 4000000), .run 0 {}, .run 0 {}, .run 0 {}, .run 0 (settledWith 4000000),
    .run 0 {}, .start (.live (CollectionLedger.notification 4000000)),
    .run 1 {}, .run 1 {}, .run 1 {}, .run 1 (settledWith 4000000), .run 1 {},
    .run 1 {}, .run 1 {}, .run 1 {}, .run 1 {}, .run 1 {}, .run 1 {},
    .run 0 {}, .run 0 {}, .run 0 {}, .run 0 {}, .run 0 {}]

theorem replays_credit_once_race : ∃ trace c, Runs (procedure (applied false)) oneActiveLoan trace c ∧
    c.shared.repayments.length = 1 ∧ reports .mismatch c.pool[0]? = true ∧
    CreditedOnce oneActiveLoan trace c := by
  have played := exists_run (procedure (applied false)) oneActiveLoan replayAmidDelivery
    (fun _ c => decide (c.shared.repayments.length = 1 ∧ reports .mismatch c.pool[0]? = true))
    (by decide +kernel)
  obtain ⟨trace, c, run, checked⟩ := played
  obtain ⟨single, lost⟩ := of_decide_eq_true checked
  exact ⟨trace, c, run, single, lost, replays_credit_once oneActiveLoan_opened run⟩

/-- Replays that ask PalmPay keep the repayments on orders that `confirms` took. -/
theorem replayed_credits_confirmed {args : Nat → CliArgs} {w₀ : World} {trace : Trace} {c : Reached}
    (opened : Opened w₀) (unopened : Unopened w₀) (asks : ∀ tid, (args tid).skipRequery = false)
    (run : Runs (procedure args) w₀ trace c)
    (verified : ∀ e ∈ trace, claimsVerified e.2.label e.2.answer e.2.before = true ∧
      sameAccount e.2.label e.2.answer e.2.before = true) :
    ∀ r ∈ c.shared.repayments, ConfirmedCredit r.inflowId r.amountNgn c.shared := by
  have onConfirmed : OnConfirmed w₀ := by
    refine ⟨by simp [unopened.repayments], fun inflow member ngn _ => ?_⟩
    exact absurd ngn (unopened.inflows inflow member)
  have held := @holds False True args w₀ trace c opened (fun _ => onConfirmed) run (fun _ => asks)
    (fun impossible => impossible.elim) fun _ => verified
  exact (held.inv.2.2.1 trivial).credits

def replayed : List (Choice Operation Answer) :=
  [.start (dropped 4000000), .run 0 {}, .run 0 {}, .run 0 {}, .run 0 (settledWith 4000000),
    .run 0 {}, .run 0 {}, .run 0 {}, .run 0 {}, .run 0 {}, .run 0 {}]

theorem replayed_credits_confirmed_quietly : ∃ trace c,
    Runs (procedure (applied false)) oneActiveLoan trace c ∧ c.shared.repayments.length = 1 ∧
    ∀ r ∈ c.shared.repayments, ConfirmedCredit r.inflowId r.amountNgn c.shared := by
  have played := exists_run (procedure (applied false)) oneActiveLoan replayed
    (fun trace c => decide (c.shared.repayments.length = 1 ∧
      ∀ e ∈ trace, claimsVerified e.2.label e.2.answer e.2.before = true ∧
        sameAccount e.2.label e.2.answer e.2.before = true)) (by decide +kernel)
  obtain ⟨trace, c, run, checked⟩ := played
  obtain ⟨single, verified⟩ := of_decide_eq_true checked
  exact ⟨trace, c, run, single, replayed_credits_confirmed oneActiveLoan_opened
    CollectionTrust.oneActiveLoan_unopened (fun _ => rfl) run verified⟩

/-- What a replay reported is on the books, and stays there whatever is credited later. -/
theorem replays_accounted {args : Nat → CliArgs} {w₀ : World} {trace : Trace} {c : Reached}
    {tid : Nat} {outcome : ReplayOutcome} {answered : Answered} (opened : Opened w₀)
    (run : Runs (procedure args) w₀ trace c)
    (ended : c.pool[tid]? = some (.pure (some outcome, answered))) :
    Accounted (args tid).applying (outcome, answered) c.shared := by
  have held := @holds False False args w₀ trace c opened (fun impossible => impossible.elim) run
    (fun impossible => impossible.elim) (fun impossible => impossible.elim)
    fun impossible => impossible.elim
  have concluded : Concluded (args tid).applying tid (some outcome, answered) c.shared :=
    held.pool tid _ ended
  exact concluded.2 outcome rfl

theorem reports_iff {decision : Decision} {p : Option (Proc World Answer Access AppError Ending)} :
    reports decision p = true ↔
      ∃ outcome answered, p = some (.pure (some outcome, answered)) ∧ outcome.decision = decision := by
  unfold reports
  split
  · simp
  · rename_i other
    simp only [Bool.false_eq_true, false_iff]
    rintro ⟨outcome, answered, rfl, _⟩
    exact other outcome answered rfl

theorem replays_accounted_credited : ∃ trace c outcome answered,
    Runs (procedure (applied true)) oneActiveLoan trace c ∧
    c.pool[0]? = some (.pure (some outcome, answered)) ∧ outcome.decision = .credited ∧
    c.shared.confirmed = [] ∧ Accounted true (outcome, answered) c.shared := by
  have played := exists_run (procedure (applied true)) oneActiveLoan
    [.start (dropped 4000000), .run 0 {}, .run 0 {}, .run 0 {}, .run 0 {}, .run 0 {}, .run 0 {},
      .run 0 {}, .run 0 {}, .run 0 {}]
    (fun _ c => decide (c.shared.confirmed = [] ∧ reports .credited c.pool[0]? = true))
    (by decide +kernel)
  obtain ⟨trace, c, run, checked⟩ := played
  obtain ⟨unasked, reported⟩ := of_decide_eq_true checked
  obtain ⟨outcome, answered, ended, credited⟩ := reports_iff.mp reported
  exact ⟨trace, c, outcome, answered, run, ended, credited, unasked,
    replays_accounted oneActiveLoan_opened run ended⟩

end Bitmonie.ReplayDroppedPalmpayCollections
