import Bitmonie.Collection

/-! Collections under every interleaving of deliveries, claims and applies. An inflow is
credited by one repayment at most, whatever happens. That the repayment says what the
inflow says needs more: deliveries of one order that agree. -/
namespace Bitmonie.CollectionLedger
open LoansService PalmpayProvider PalmpayCollectionVaWebhook LoanStatusService OpsAlertsService
  WebhooksLogService

inductive Operation where
  | handleWebhook (signatureValid : Bool) (parsed : Option CollectionNotification)
  | claimInflow (userId loanId : Nat)
  | applyInflowToLoan (userId inflowId loanId : Nat)

/-- What the credit of an operation answered; none when it came to no credit. -/
abbrev Answered := Option (Except AppError CreditInflowResult)

def procedure (tid : Nat) : Operation → Action Answered
  | .handleWebhook signatureValid parsed =>
    (handleWebhook tid signatureValid parsed).bind fun delivery => .pure delivery.2
  | .claimInflow userId loanId =>
    (claimInflow tid userId loanId).attempt.bind fun credit => .pure (some credit)
  | .applyInflowToLoan userId inflowId loanId =>
    (applyInflowToLoan tid userId inflowId loanId).attempt.bind fun credit => .pure (some credit)

/-- One repayment for an inflow, and the inflow is marked with the loan it went to. -/
structure Matched (w : World) : Prop where
  once : (w.repayments.map (·.inflowId)).Nodup
  stored : ∀ r ∈ w.repayments, r.inflowId < w.inflows.length
  marked : ∀ (id : Nat) (inflow : Inflow), w.inflows[id]? = some inflow →
    inflow.currency = .ngn → ∀ loanId,
      inflow.isMatched = true ∧ inflow.sourceId = some loanId ↔
        ∃ r ∈ w.repayments, r.inflowId = id ∧ r.loanId = loanId

def CameFrom (inflowId loanId : Nat) (amountNgn : ℚ) (w : World) : Prop :=
  ∃ inflow loan, w.inflows[inflowId]? = some inflow ∧ w.loans[loanId]? = some loan ∧
    inflow.amount = amountNgn ∧ inflow.userId = some loan.userId

def Agreed (w : World) : Prop :=
  ∀ r ∈ w.repayments, CameFrom r.inflowId r.loanId r.amountNgn w

/-- Amounts and owners of rows are never rewritten. -/
structure Settled (s t : World) : Prop where
  inflow : ∀ (id : Nat) (inflow : Inflow), s.inflows[id]? = some inflow →
    ∃ inflow', t.inflows[id]? = some inflow' ∧
      inflow'.amount = inflow.amount ∧ inflow'.userId = inflow.userId
  loan : ∀ (id : Nat) (loan : Loan), s.loans[id]? = some loan →
    ∃ loan', t.loans[id]? = some loan' ∧ loan'.userId = loan.userId

/-- Loans, repayments and the matched fields of every inflow are as they were. -/
structure Untouched (s t : World) : Prop where
  loans : t.loans = s.loans
  repayments : t.repayments = s.repayments
  inflow : ∀ (id : Nat) (inflow : Inflow), s.inflows[id]? = some inflow →
    ∃ inflow', t.inflows[id]? = some inflow' ∧
    inflow'.isMatched = inflow.isMatched ∧ inflow'.matchedAt = inflow.matchedAt ∧
    inflow'.sourceType = inflow.sourceType ∧ inflow'.sourceId = inflow.sourceId

/-- A delivery that reaches the upsert and finds its order stored and unmatched has the
amount and the user that were stored. -/
def sameContents : Access → Answer → World → Bool
  | .upsertInflow orderNo userId amount _, i, w =>
    i.fails || i.lost ||
      (findRow w.inflows fun inflow => inflow.providerReference = orderNo).all fun stored =>
        stored.2.isMatched || (stored.2.amount = amount && stored.2.userId = some userId)
  | _, _, _ => true

/-- The contract of every operation. `agree` asks for deliveries that agree with what is
stored, and gives agreeing ledgers for it. -/
def ledgers (agree : Prop) : Discipline World Answer Access where
  inv w := Matched w ∧ (agree → Agreed w)
  allowed label i w := agree → sameContents label i w = true
  fresh tid w := tid ∉ w.credited
  rely tid s t := Settled s t ∧ (tid ∈ t.credited ↔ tid ∈ s.credited)
  guar tid _ _ s t := Settled s t ∧ (∀ other, tid ≠ other → (other ∈ t.credited ↔ other ∈ s.credited)) ∧
    s.credited <:+ t.credited ∧ s.repayments <+: t.repayments ∧ (tid ∉ t.credited → Untouched s t)

theorem Settled.refl (w : World) : Settled w w :=
  ⟨fun _ inflow found => ⟨inflow, found, rfl, rfl⟩, fun _ loan found => ⟨loan, found, rfl⟩⟩

theorem Settled.trans {r s t : World} (first : Settled r s) (second : Settled s t) :
    Settled r t where
  inflow id inflow found := by
    obtain ⟨inflow', found', amount, user⟩ := first.inflow id inflow found
    obtain ⟨inflow'', found'', amount', user'⟩ := second.inflow id inflow' found'
    exact ⟨inflow'', found'', amount'.trans amount, user'.trans user⟩
  loan id loan found := by
    obtain ⟨loan', found', user⟩ := first.loan id loan found
    obtain ⟨loan'', found'', user'⟩ := second.loan id loan' found'
    exact ⟨loan'', found'', user'.trans user⟩

theorem Untouched.refl (w : World) : Untouched w w :=
  ⟨rfl, rfl, fun _ inflow found => ⟨inflow, found, rfl, rfl, rfl, rfl⟩⟩

theorem CameFrom.mono {inflowId loanId : Nat} {amountNgn : ℚ} {s t : World}
    (settled : Settled s t) (came : CameFrom inflowId loanId amountNgn s) :
    CameFrom inflowId loanId amountNgn t := by
  obtain ⟨inflow, loan, stored, owed, amount, owner⟩ := came
  obtain ⟨inflow', stored', amount', owner'⟩ := settled.inflow inflowId inflow stored
  obtain ⟨loan', owed', user⟩ := settled.loan loanId loan owed
  exact ⟨inflow', loan', stored', owed', amount'.trans amount, by rw [owner', owner, user]⟩

section Contract
variable {agree : Prop}

theorem ledgers_sound : (ledgers agree).Sound where
  refl _ s := ⟨Settled.refl s, Iff.rfl⟩
  trans _ _ _ _ first second := ⟨first.1.trans second.1, second.2.trans first.2⟩
  compatible _ other _ _ _ _ different _ guar := ⟨guar.1, guar.2.1 other different⟩
  fresh _ _ _ rely unused credited := unused (rely.2.mp credited)

abbrev contract (agree : Prop) (tid : Nat) : Contract World Answer Access :=
  (ledgers agree).contract tid

/-- A call that has been refused has not credited. -/
def Refused (tid : Nat) (e : AppError) (w : World) : Prop :=
  e ≠ .unavailable → tid ∉ w.credited

theorem still (tid : Nat) (label : Access) (i : Answer) (w : World) :
    (contract agree tid).guar label i w w :=
  ⟨Settled.refl w, fun _ _ => Iff.rfl, List.suffix_rfl, List.prefix_rfl, fun _ => Untouched.refl w⟩

/-- A read, by a call that has not credited. -/
theorem query_ledgers {tid : Nat} {f : Answer → World → Except AppError α} {w : World}
    {post : α → World → Prop} (unused : tid ∉ w.credited)
    (read : ∀ t i a, Settled w t → tid ∉ t.credited → f i t = .ok a → post a t) :
    (query f).Meets (contract agree tid) post (Refused tid) w := by
  apply query_meets
  intro t moved _ i _
  have unusedₜ : tid ∉ t.credited := fun credited => unused (moved.2.mp credited)
  exact ⟨still tid .read i t, fun _ => unusedₜ, fun _ _ _ => unusedₜ,
    fun a result => read t i a moved.1 unusedₜ result⟩

/-- An unmatched row is appended: no repayment refers to it. -/
theorem append_ledgers {tid : Nat} {w : World} (row : Inflow) (label : Access) (i : Answer)
    (unmatched : row.isMatched = false) (inv : (contract agree tid).inv w) :
    (contract agree tid).inv { w with inflows := w.inflows ++ [row] } ∧
      (contract agree tid).guar label i w { w with inflows := w.inflows ++ [row] } := by
  obtain ⟨matched, agreed⟩ := inv
  have kept {id : Nat} {inflow : Inflow} (found : w.inflows[id]? = some inflow) :
      (w.inflows ++ [row])[id]? = some inflow := by
    rw [List.getElem?_append_left (List.getElem?_eq_some_iff.mp found).1, found]
  have settled : Settled w { w with inflows := w.inflows ++ [row] } :=
    ⟨fun _ inflow found => ⟨inflow, kept found, rfl, rfl⟩, fun _ loan found => ⟨loan, found, rfl⟩⟩
  refine ⟨⟨⟨matched.once, fun r member => ?_, fun id inflow found ngn loanId => ?_⟩,
    fun asked r member => (agreed asked r member).mono settled⟩,
    settled, fun _ _ => Iff.rfl, List.suffix_rfl, List.prefix_rfl,
    fun _ => ⟨rfl, rfl, fun _ inflow found => ⟨inflow, kept found, rfl, rfl, rfl, rfl⟩⟩⟩
  · simpa using Nat.lt_succ_of_lt (matched.stored r member)
  · by_cases old : id < w.inflows.length
    · rw [List.getElem?_append_left old] at found
      exact matched.marked id inflow found ngn loanId
    · have bound := (List.getElem?_eq_some_iff.mp found).1
      simp only [List.length_append, List.length_singleton] at bound
      obtain rfl : id = w.inflows.length := by omega
      obtain rfl : row = inflow := by simpa using found
      simp only [unmatched, Bool.false_eq_true, false_and, false_iff]
      rintro ⟨r, member, same, _⟩
      exact absurd (matched.stored r member) (by omega)

/-- The loan a credit writes is the loan of the same user. -/
theorem written_loan {params : CreditParams} {loan : Loan} {credit : Credit} {createdAt : Time}
    {w w' : World} (wrote : Written params loan credit createdAt w w') (id : Nat) (before : Loan)
    (found : w.loans[id]? = some before) :
    ∃ after, w'.loans[id]? = some after ∧ after.userId = before.userId := by
  by_cases same : params.loanId = id
  · subst same
    refine ⟨_, wrote.loan_self found, ?_⟩
    simp only [creditedLoan, repaidLoan]
    split <;> rfl
  · exact ⟨before, (wrote.loan_other same).trans found, rfl⟩

theorem written_settled {params : CreditParams} {loan : Loan} {credit : Credit}
    {createdAt : Time} {w w' : World} (wrote : Written params loan credit createdAt w w') :
    Settled w w' := by
  refine ⟨fun id before found => ?_, written_loan wrote⟩
  obtain ⟨inflow, _, stored, _, rfl⟩ := wrote.eq
  by_cases same : params.inflowId = id
  · subst same
    obtain rfl := Option.some.inj (stored.symm.trans found)
    exact ⟨_, getElem?_set_of_eq stored, rfl, rfl⟩
  · exact ⟨before, (List.getElem?_set_ne same).trans found, rfl, rfl⟩

/-- The step: a credit adds the one repayment of its inflow and marks the inflow. -/
theorem written_matched {params : CreditParams} {loan : Loan} {credit : Credit}
    {createdAt : Time} {w w' : World} (wrote : Written params loan credit createdAt w w')
    (matched : Matched w) : Matched w' := by
  have unused := wrote.unused
  obtain ⟨inflow, _, stored, _, rfl⟩ := wrote.eq
  refine ⟨?_, fun r member => ?_, fun id after found ngn loanId => ?_⟩
  · rw [List.map_append, List.nodup_append]
    refine ⟨matched.once, by simp, fun used member other single => ?_⟩
    obtain ⟨r, present, rfl⟩ := List.mem_map.mp member
    obtain rfl : other = params.inflowId := by simpa [repaymentRow] using single
    exact unused r present
  · rw [List.length_set]
    rcases List.mem_append.mp member with old | new
    · exact matched.stored r old
    · obtain rfl := List.mem_singleton.mp new
      exact (List.getElem?_eq_some_iff.mp stored).1
  · by_cases same : params.inflowId = id
    · subst same
      obtain rfl := Option.some.inj ((getElem?_set_of_eq stored).symm.trans found)
      constructor
      · rintro ⟨_, source⟩
        exact ⟨repaymentRow params credit createdAt, by simp, rfl, Option.some.inj source⟩
      · rintro ⟨r, member, used, rfl⟩
        rcases List.mem_append.mp member with old | new
        · exact absurd used (unused r old)
        · obtain rfl := List.mem_singleton.mp new
          exact ⟨rfl, rfl⟩
    · rw [List.getElem?_set_ne same] at found
      rw [matched.marked id after found ngn loanId]
      constructor
      · rintro ⟨r, member, used⟩
        exact ⟨r, by simp [member], used⟩
      · rintro ⟨r, member, used, owed⟩
        rcases List.mem_append.mp member with old | new
        · exact ⟨r, old, used, owed⟩
        · obtain rfl := List.mem_singleton.mp new
          exact absurd used same

theorem written_agreed {params : CreditParams} {loan : Loan} {credit : Credit}
    {createdAt : Time} {w w' : World} (wrote : Written params loan credit createdAt w w')
    (came : CameFrom params.inflowId params.loanId params.amountNgn w) (agreed : Agreed w) :
    Agreed w' := by
  have settled := written_settled wrote
  have rows : w'.repayments = w.repayments ++ [repaymentRow params credit createdAt] := by
    obtain ⟨_, _, _, _, rfl⟩ := wrote.eq
    rfl
  intro r member
  rw [rows] at member
  rcases List.mem_append.mp member with old | new
  · exact (agreed r old).mono settled
  · obtain rfl := List.mem_singleton.mp new
    exact came.mono settled

/-- The commit of a credit that is owed by the loan of the inflow's user. -/
theorem credit_ledgers {tid : Nat} {params : CreditParams} {loan : Loan} {credit : Credit}
    {createdAt : Time} {w w' : World} (wrote : Written params loan credit createdAt w w')
    (came : agree → CameFrom params.inflowId params.loanId params.amountNgn w)
    (inv : (contract agree tid).inv w) (label : Access) (i : Answer)
    (calls : w'.credited = w.credited) :
    (contract agree tid).inv { w' with credited := tid :: w'.credited } ∧
      (contract agree tid).guar label i w { w' with credited := tid :: w'.credited } := by
  obtain ⟨matched, agreed⟩ := inv
  have settled := written_settled wrote
  have matched' := written_matched wrote matched
  have agreed' (asked : agree) : Agreed w' := written_agreed wrote (came asked) (agreed asked)
  refine ⟨⟨⟨matched'.once, matched'.stored, matched'.marked⟩, agreed'⟩,
    ⟨settled.inflow, settled.loan⟩, fun other different => ?_, ?_, ?_, fun unused => ?_⟩
  · simp [calls, Ne.symm different]
  · rw [calls]
    exact List.suffix_cons tid w.credited
  · obtain ⟨_, _, _, _, rfl⟩ := wrote.eq
    exact List.prefix_append _ _
  · exact absurd (List.mem_cons_self ..) unused

theorem creditBody_ledgers {tid : Nat} {params : CreditParams} {w : World}
    (unused : tid ∉ w.credited)
    (came : agree → CameFrom params.inflowId params.loanId params.amountNgn w) :
    (creditBody tid params).Meets (contract agree tid) (fun _ _ => True) (Refused tid) w := by
  rw [creditBody, Proc.meets_bind]
  apply query_ledgers unused
  intro t i read settled unusedₜ _
  rw [Proc.meets_bind]
  cases planned : planCredit params.amountNgn read.2 read.1.1 read.1.2 with
  | error e => exact fun _ => unusedₜ
  | ok plan =>
    cases plan with
    | none => trivial
    | some credit =>
      simp only [Proc.ofExcept, Proc.meets_pure, Proc.meets_bind]
      apply commit_meets
      intro u moved inv _ j _
      have unusedᵤ : tid ∉ u.credited := fun credited => unusedₜ (moved.2.mp credited)
      refine ⟨still tid _ j u, fun _ _ => unusedᵤ, fun _ _ _ => unusedᵤ, fun _ u' _ done => ?_⟩
      obtain ⟨v, wrote, -, rfl⟩ := map_pair_ok.mp done
      obtain ⟨inv', guar⟩ := credit_ledgers (writeCredit_ok (planCredit_ok planned).1 wrote)
        (fun asked => ((came asked).mono settled).mono moved.1) inv
        (.credit params.loanId params.inflowId) j (writeCredit_auxiliary wrote).1
      exact ⟨inv', guar, fun _ => trivial, fun _ available => absurd rfl available⟩

/-- Locks, logs and pages are no part of the ledgers. -/
theorem ledgers_congr {tid : Nat} {r s t : World} {label : Access} {i : Answer}
    (held : (contract agree tid).inv s ∧ (contract agree tid).guar label i r s)
    (loans : t.loans = s.loans) (repayments : t.repayments = s.repayments)
    (inflows : t.inflows = s.inflows) (calls : t.credited = s.credited) :
    (contract agree tid).inv t ∧ (contract agree tid).guar label i r t := by
  obtain ⟨⟨matched, agreed⟩, settled, others, past, rows, untouched⟩ := held
  refine ⟨⟨⟨?_, ?_, ?_⟩, fun asked => ?_⟩, ⟨?_, ?_⟩, ?_, ?_, ?_, fun unused => ⟨?_, ?_, ?_⟩⟩
  · simpa only [repayments] using matched.once
  · simpa only [repayments, inflows] using matched.stored
  · simpa only [repayments, inflows] using matched.marked
  · simpa only [Agreed, CameFrom, repayments, inflows, loans] using agreed asked
  · simpa only [inflows] using settled.inflow
  · simpa only [loans] using settled.loan
  · simpa only [calls] using others
  · simpa only [calls] using past
  · simpa only [repayments] using rows
  · exact loans.trans (untouched (calls ▸ unused)).loans
  · exact repayments.trans (untouched (calls ▸ unused)).repayments
  · simpa only [inflows] using (untouched (calls ▸ unused)).inflow

theorem aside_ledgers {tid : Nat} {s t : World} (label : Access) (i : Answer)
    (inv : (contract agree tid).inv s) (loans : t.loans = s.loans)
    (repayments : t.repayments = s.repayments) (inflows : t.inflows = s.inflows)
    (calls : t.credited = s.credited) :
    (contract agree tid).inv t ∧ (contract agree tid).guar label i s t :=
  ledgers_congr ⟨inv, still tid label i s⟩ loans repayments inflows calls

theorem creditInflow_ledgers {tid : Nat} {params : CreditParams} {w : World}
    (unused : tid ∉ w.credited)
    (came : agree → CameFrom params.inflowId params.loanId params.amountNgn w) :
    (creditInflow tid params).Meets (contract agree tid) (fun _ _ => True) (Refused tid) w := by
  rw [creditInflow, Proc.meets_bind]
  cases floorCheck params with
  | error e => exact fun _ => unused
  | ok =>
    simp only [Proc.ofExcept, Proc.meets_pure, Proc.meets_bind]
    apply @lockingLoan_meets _ _ _ _ _ _ _ _ (fun _ _ => True) (Refused tid)
    · intro t moved inv _ i _
      have unusedₜ : tid ∉ t.credited := fun credited => unused (moved.2.mp credited)
      obtain ⟨inv', guar⟩ := aside_ledgers (t := { t with
        rowLock := Function.update t.rowLock params.loanId (some tid) })
        (.lockLoan params.loanId) i inv rfl rfl rfl rfl
      refine ⟨still tid _ i t, fun _ => unusedₜ, fun _ => unusedₜ, fun _ _ => ⟨inv', guar, ?_⟩⟩
      exact creditBody_ledgers unusedₜ fun asked => ((came asked).mono moved.1).mono guar.1
    · intro u t moved inv i _
      obtain ⟨inv', guar⟩ := aside_ledgers (t := { t with
        rowLock := Function.update t.rowLock params.loanId none })
        (.unlockLoan params.loanId) i inv rfl rfl rfl rfl
      refine ⟨fun done _ => ⟨inv', guar, ?_⟩, fun e refused => ⟨inv', guar, fun other => ?_⟩⟩
      · cases done.2 with
        | none => trivial
        | some receipt =>
          rw [Proc.meets_bind]
          apply query_meets
          intro v _ _ j _
          exact ⟨still tid _ j v, fun available => absurd rfl available,
            (by simp), fun _ _ => trivial⟩
      · exact fun credited => refused other (moved.2.mp credited)

def OwnedBy (userId loanId : Nat) (w : World) : Prop :=
  ∃ loan, w.loans[loanId]? = some loan ∧ loan.userId = userId

theorem OwnedBy.mono {userId loanId : Nat} {s t : World} (settled : Settled s t)
    (owned : OwnedBy userId loanId s) : OwnedBy userId loanId t := by
  obtain ⟨loan, found, user⟩ := owned
  obtain ⟨loan', found', user'⟩ := settled.loan loanId loan found
  exact ⟨loan', found', user'.trans user⟩

theorem findActiveLoan_owned {userId loanId : Nat} {w : World} {loan : Loan}
    (found : findActiveLoan userId loanId w = .ok loan) : OwnedBy userId loanId w := by
  obtain ⟨loan', read, _⟩ := bind_ok.mp found
  unfold findLoan at read
  split at read
  · rename_i row present
    split at read
    · rename_i user
      exact ⟨row, present, user⟩
    · cases read
  · cases read

theorem applyInflowToLoan_ledgers {tid userId inflowId loanId : Nat} {w : World}
    (unused : tid ∉ w.credited) :
    (applyInflowToLoan tid userId inflowId loanId).Meets (contract agree tid)
      (fun _ _ => True) (Refused tid) w := by
  rw [applyInflowToLoan, Proc.meets_bind]
  apply query_ledgers unused
  intro t _ loan _ unusedₜ active
  rw [Proc.meets_bind]
  apply query_ledgers unusedₜ
  intro u _ inflow settled unusedᵤ read
  obtain ⟨stored, user, -⟩ := findInflow_ok read
  obtain ⟨owed, present, owner⟩ := (findActiveLoan_owned active).mono settled
  rw [Proc.meets_bind]
  cases claimable inflow with
  | error e => exact fun _ => unusedᵤ
  | ok =>
    refine creditInflow_ledgers unusedᵤ fun _ => ?_
    exact ⟨inflow, owed, stored, present, rfl, by rw [user, owner]⟩

theorem claimInflow_ledgers {tid userId loanId : Nat} {w : World} (unused : tid ∉ w.credited) :
    (claimInflow tid userId loanId).Meets (contract agree tid) (fun _ _ => True)
      (Refused tid) w := by
  rw [claimInflow, Proc.meets_bind]
  apply query_ledgers unused
  intro t _ now _ unusedₜ _
  rw [Proc.meets_bind]
  apply query_ledgers unusedₜ
  intro u _ candidate _ unusedᵤ _
  cases candidate with
  | none => exact fun _ => unusedᵤ
  | some candidate => exact applyInflowToLoan_ledgers unusedᵤ

def Ended (tid : Nat) : Answered → World → Prop
  | none, w => tid ∉ w.credited
  | some (.error e), w => Refused tid e w
  | some (.ok _), _ => True

theorem unused_stable {tid : Nat} (s t : World) (moved : (contract agree tid).rely s t)
    (unused : tid ∉ s.credited) : tid ∉ t.credited := fun credited => unused (moved.2.mp credited)

theorem refused_stable {tid : Nat} {e : AppError} (s t : World)
    (moved : (contract agree tid).rely s t) (refused : Refused tid e s) : Refused tid e t :=
  fun other => unused_stable s t moved (refused other)

theorem ended_congr {tid : Nat} {answered : Answered} {s t : World}
    (calls : t.credited = s.credited) (ended : Ended tid answered s) : Ended tid answered t := by
  match answered, ended with
  | none, unused =>
    rw [Ended, calls]
    exact unused
  | some (.error _), refused => exact fun other => calls ▸ refused other
  | some (.ok _), _ => trivial

theorem ended_stable {tid : Nat} (answered : Answered) (s t : World)
    (moved : (contract agree tid).rely s t) (ended : Ended tid answered s) :
    Ended tid answered t := by
  match answered, ended with
  | none, unused => exact unused_stable s t moved unused
  | some (.error _), refused => exact refused_stable s t moved refused
  | some (.ok _), _ => trivial

theorem activeLoansOf_owned {userId : Nat} {w : World} {loan : Nat × Loan}
    (member : loan ∈ activeLoansOf userId w) : OwnedBy userId loan.1 w := by
  obtain ⟨found, active⟩ := mem_findRows.mp member
  exact ⟨loan.2, found, (of_decide_eq_true active).1⟩

def Chosen (tid userId : Nat) (matched : Except UnmatchedReason Nat) (w : World) : Prop :=
  tid ∉ w.credited ∧ ∀ loanId, matched = .ok loanId → OwnedBy userId loanId w

theorem selectLoan_ledgers {tid userId : Nat} {payload : CollectionNotification} {w : World}
    (unused : tid ∉ w.credited) :
    (selectLoan payload userId).Meets (contract agree tid) (Chosen tid userId)
      (Refused tid) w := by
  rw [selectLoan, Proc.meets_bind]
  apply query_ledgers unused
  intro t _ ids _ unusedₜ read
  have listed := Except.ok.inj read
  split
  · exact ⟨unusedₜ, fun _ wrong => nomatch wrong⟩
  · rename_i only
    refine ⟨unusedₜ, fun loanId same => ?_⟩
    obtain rfl := Except.ok.inj same
    have member : only ∈ (activeLoansOf userId t).map Prod.fst := by simp [listed]
    obtain ⟨loan, active, rfl⟩ := List.mem_map.mp member
    exact activeLoansOf_owned active
  · rw [Proc.meets_bind]
    apply query_ledgers unusedₜ
    intro u _ smartMatch _ unusedᵤ read
    refine ⟨unusedᵤ, fun loanId same => ?_⟩
    have oldest := Except.ok.inj read
    cases smartMatch with
    | none => cases same
    | some id =>
      obtain rfl := Except.ok.inj same
      obtain ⟨loan, first, rfl⟩ := Option.map_eq_some_iff.mp oldest
      have member := List.mem_of_mem_head? first
      rw [List.mem_insertionSort] at member
      exact activeLoansOf_owned (List.mem_filter.mp member).1

theorem matchLoan_ledgers {tid userId : Nat} {payload : CollectionNotification} {w : World}
    (unused : tid ∉ w.credited) :
    (matchLoan payload userId).Meets (contract agree tid) (Chosen tid userId)
      (Refused tid) w := by
  have select (enough : Bool) {t : World} (unusedₜ : tid ∉ t.credited) :
      (if enough then selectLoan payload userId else .pure (.error .belowFloor)).Meets
        (contract agree tid) (Chosen tid userId) (Refused tid) t := by
    cases enough with
    | false => exact ⟨unusedₜ, fun _ wrong => nomatch wrong⟩
    | true => exact selectLoan_ledgers unusedₜ
  rw [matchLoan, Proc.meets_bind]
  split
  · exact query_ledgers unused fun _ _ enough _ unusedₜ _ => select enough unusedₜ
  · exact select true unused

/-- A page, by a call that goes on as it was. -/
theorem page_ledgers {tid : Nat} {alert : OpsAlert} {kept : World → Prop} {w : World}
    (here : kept w) (stable : ∀ s t, (contract agree tid).rely s t → kept s → kept t)
    (calls : ∀ s t, t.credited = s.credited → kept s → kept t) :
    (page alert).Meets (contract agree tid) (fun _ => kept) (Refused tid) w := by
  rw [page, Proc.meets_access]
  intro t moved inv _ i _
  have sent : ∃ alerts orders, noteAlert alert
      (if i.fails then t else { t with opsAlerts := t.opsAlerts ++ [alert] }) =
        { t with opsAlerts := alerts, setAside := orders } := by
    split
    · obtain ⟨orders, same⟩ := noteAlert_eq alert t
      exact ⟨t.opsAlerts, orders, same⟩
    · obtain ⟨orders, same⟩ := noteAlert_eq alert { t with opsAlerts := t.opsAlerts ++ [alert] }
      exact ⟨t.opsAlerts ++ [alert], orders, same⟩
  obtain ⟨alerts, orders, same⟩ := sent
  dsimp only
  rw [same]
  exact and_assoc.mp ⟨aside_ledgers (.alertOps alert) i inv rfl rfl rfl rfl,
    calls t _ rfl (stable w t moved here)⟩

theorem createUnmatchedInflow_ledgers {tid : Nat} {payload : CollectionNotification}
    {userId : Option Nat} {reason : UnmatchedReason} {w : World} (unused : tid ∉ w.credited) :
    (createUnmatchedInflow payload userId reason).Meets (contract agree tid)
      (fun _ t => tid ∉ t.credited) (fun _ t => tid ∉ t.credited) w := by
  have noted {r s : World} {label : Access} {i : Answer} (unusedₛ : tid ∉ s.credited)
      (held : (contract agree tid).inv s ∧ (contract agree tid).guar label i r s) :
      let t := noteUntrusted payload.orderNo reason s
      (contract agree tid).inv t ∧ (contract agree tid).guar label i r t ∧ tid ∉ t.credited := by
    obtain ⟨orders, same⟩ := noteUntrusted_eq payload.orderNo reason s
    dsimp only
    rw [same]
    exact and_assoc.mp ⟨ledgers_congr held rfl rfl rfl rfl, unusedₛ⟩
  apply createUnmatchedInflow_meets
  intro t moved inv i _
  have unusedₜ := unused_stable w t moved unused
  have same := noted unusedₜ
    ⟨inv, still tid (.storeUnmatchedInflow payload.orderNo reason) i t⟩
  refine ⟨fun _ => same, fun _ _ => same, fun _ _ => ?_⟩
  obtain ⟨inv', guar, unused'⟩ := noted
    (s := { t with inflows := t.inflows ++ [unmatchedInflow payload userId reason i.now] }) unusedₜ
    (append_ledgers (unmatchedInflow payload userId reason i.now)
      (.storeUnmatchedInflow payload.orderNo reason) i rfl inv)
  exact ⟨inv', guar, fun _ => unused', fun _ => unused'⟩

theorem storeUnmatchedInflow_ledgers {tid : Nat} {payload : CollectionNotification}
    {userId : Option Nat} {reason : UnmatchedReason} {w : World} (unused : tid ∉ w.credited) :
    (storeUnmatchedInflow payload userId reason).Meets (contract agree tid)
      (fun _ t => tid ∉ t.credited) (Refused tid) w := by
  simp only [storeUnmatchedInflow, Proc.meets_bind, Proc.meets_attempt]
  have paged {t : World} (unusedₜ : tid ∉ t.credited) := @page_ledgers agree tid
    (.unmatchedInflow payload.orderNo reason) (fun t => tid ∉ t.credited) t unusedₜ unused_stable
      fun _ _ calls unused => calls ▸ unused
  apply (createUnmatchedInflow_ledgers unused).imp
  · exact fun _ t unusedₜ => paged unusedₜ
  · intro e t unusedₜ
    cases e <;> first | exact unusedₜ | exact paged unusedₜ

/-- What the upsert returns is stored; unmatched, it has the contents of the payload. -/
theorem upsert_ledgers {tid userId loanId : Nat} {payload : CollectionNotification}
    {signatureOnly : Bool} {w : World} (unused : tid ∉ w.credited)
    (owned : OwnedBy userId loanId w) :
    (commit (upsertAccess payload userId) (fun _ => true) fun i w =>
      .ok (upsertInflow (verifiedInflow payload userId signatureOnly i.now) w)).Meets
      (contract agree tid)
      (fun inflow t => tid ∉ t.credited ∧ (agree → inflow.2.isMatched = false →
        CameFrom inflow.1 loanId (amountNgn payload) t))
      (fun _ t => tid ∉ t.credited) w := by
  apply commit_meets
  intro t moved inv _ i allowed
  have unusedₜ : tid ∉ t.credited := fun credited => unused (moved.2.mp credited)
  obtain ⟨loan, owed, owner⟩ := owned.mono moved.1
  refine ⟨still tid _ i t, fun _ => unusedₜ, fun _ _ => unusedₜ, fun inflow t' succeeds done => ?_⟩
  have upserted := Except.ok.inj done
  unfold upsertInflow at upserted
  split at upserted
  · rename_i stored first
    obtain ⟨rfl, rfl⟩ := Prod.mk.inj upserted
    obtain ⟨present, _⟩ := findRow_some first
    refine ⟨inv, still tid _ i t, fun known => ⟨unusedₜ, fun asked unmatched => ?_⟩,
      fun _ => unusedₜ⟩
    have same : sameContents (upsertAccess payload userId) i t = true :=
      allowed asked
    change findRow t.inflows (fun inflow => inflow.providerReference = payload.orderNo) =
      some stored at first
    simp only [upsertAccess, sameContents, succeeds, known, unmatched, first, Option.all_some, Bool.false_or,
      Bool.and_eq_true, decide_eq_true_eq] at same
    exact ⟨stored.2, loan, present, owed, same.1, by rw [same.2, owner]⟩
  · obtain ⟨rfl, rfl⟩ := Prod.mk.inj upserted
    obtain ⟨inv', guar⟩ := append_ledgers (verifiedInflow payload userId signatureOnly i.now)
      (upsertAccess payload userId) i rfl inv
    refine ⟨inv', guar, fun _ => ⟨unusedₜ, fun _ _ => ?_⟩, fun _ => unusedₜ⟩
    exact ⟨verifiedInflow payload userId signatureOnly i.now, loan, by simp, owed, rfl,
      congrArg some owner.symm⟩

theorem settle_ledgers {tid userId loanId : Nat} {payload : CollectionNotification}
    {signatureOnly : Bool} {w : World} (unused : tid ∉ w.credited)
    (owned : OwnedBy userId loanId w) :
    (settle tid payload userId loanId signatureOnly).Meets (contract agree tid)
      (fun delivery => Ended tid delivery.2) (Refused tid) w := by
  simp only [settle, Proc.meets_bind, Proc.meets_attempt]
  apply (upsert_ledgers unused owned).imp _ fun _ _ unusedₜ => unusedₜ
  rintro inflow t ⟨unusedₜ, came⟩
  cases matched : inflow.2.isMatched with
  | true => exact unusedₜ
  | false =>
    simp only [Bool.false_eq_true, if_false, Proc.meets_bind, Proc.meets_attempt]
    apply (creditInflow_ledgers unusedₜ fun asked => came asked matched).imp
    · intro result u _
      split
      · exact page_ledgers trivial (fun _ _ _ h => h) fun _ _ _ h => h
      · trivial
    · intro e u refused
      have read {f : Answer → World → Except AppError Bool} {v : World} (here : Refused tid e v) :
          ((query f).catching fun _ => .pure false).Meets (contract agree tid)
            (fun _ => Refused tid e) (fun _ _ => False) v := by
        rw [Proc.meets_catching]
        apply query_meets
        intro x moved _ i _
        have refusedₓ := refused_stable v x moved here
        exact ⟨still tid .read i x, refusedₓ, fun _ _ => refusedₓ, fun _ _ => refusedₓ⟩
      rw [inflowIsMatched]
      apply (read refused).imp _ fun _ _ impossible => impossible.elim
      intro isMatched v refusedᵥ
      cases isMatched with
      | true => exact refusedᵥ
      | false =>
        simp only [Bool.false_eq_true, if_false, Proc.meets_bind, creditFailedBefore]
        apply (read refusedᵥ).imp _ fun _ _ impossible => impossible.elim
        intro pagedBefore x refusedₓ
        cases pagedBefore with
        | true => exact refusedₓ
        | false =>
          exact page_ledgers refusedₓ refused_stable fun _ _ calls refused other =>
            calls ▸ refused other

/-- The re-query notes what it confirmed, which is no part of the ledgers. -/
theorem getCollectionOrderStatus_ledgers {tid : Nat} {payload : CollectionNotification}
    {kept : World → Prop} {w : World} (here : kept w)
    (stable : ∀ s t, (contract agree tid).rely s t → kept s → kept t)
    (aside : ∀ s orders, kept s → kept { s with confirmed := orders }) :
    (getCollectionOrderStatus payload).Meets (contract agree tid) (fun _ => kept)
      (fun _ => kept) w := by
  rw [getCollectionOrderStatus, Proc.meets_access]
  intro t moved inv _ i _
  have hereₜ := stable w t moved here
  split
  · exact ⟨inv, still tid _ i t, hereₜ⟩
  · dsimp only
    split
    · exact and_assoc.mp ⟨aside_ledgers (.getCollectionOrderStatus payload.orderNo) i inv
        rfl rfl rfl rfl, aside t _ hereₜ⟩
    · exact ⟨inv, still tid _ i t, hereₜ⟩

theorem handle_ledgers {tid : Nat} {parsed : Option CollectionNotification} {w : World}
    (unused : tid ∉ w.credited) :
    (handle tid parsed).Meets (contract agree tid)
      (fun delivery => Ended tid delivery.2) (Refused tid) w := by
  unfold handle
  split
  · exact unused
  rename_i payload
  split
  · exact unused
  split
  · exact unused
  rw [Proc.meets_bind]
  apply query_ledgers unused
  intro t _ repaymentAccount _ unusedₜ _
  split
  · exact unusedₜ
  rename_i account _
  rw [Proc.meets_bind]
  apply (matchLoan_ledgers unusedₜ).imp _ fun _ _ refused => refused
  rintro matched u ⟨unusedᵤ, owned⟩
  cases matched with
  | error reason =>
    simp only [Proc.meets_bind]
    exact storeUnmatchedInflow_ledgers unusedᵤ
  | ok loanId =>
    have requeried := @getCollectionOrderStatus_ledgers agree tid payload
      (fun t => tid ∉ t.credited ∧ OwnedBy account.2.userId loanId t) u ⟨unusedᵤ, owned loanId rfl⟩
      (fun s t moved here => ⟨unused_stable s t moved here.1, here.2.mono moved.1⟩)
      fun _ _ here => here
    simp only [Proc.meets_bind, Proc.meets_attempt]
    apply requeried.imp
    · rintro order v ⟨unusedᵥ, ownedᵥ⟩
      cases crossCheck payload order with
      | ok => exact settle_ledgers unusedᵥ ownedᵥ
      | error refusal =>
        simp only [Proc.meets_bind]
        split
        · exact storeUnmatchedInflow_ledgers unusedᵥ
        · exact unusedᵥ
    · exact fun _ _ here => here.1

/-- A log row, by a call that goes on as it was. -/
theorem log_ledgers {tid : Nat} {kept : World → Prop} {w : World} (here : kept w)
    {f : Answer → World → Except AppError (α × World)} {handler : Action α}
    (stable : ∀ s t, (contract agree tid).rely s t → kept s → kept t)
    (logs : ∀ i s a t, f i s = .ok (a, t) → ∃ rows, t = { s with webhookLogs := rows })
    (aside : ∀ s rows, kept s → kept { s with webhookLogs := rows })
    (caught : ∀ t, kept t → handler.Meets (contract agree tid) (fun _ => kept) (Refused tid) t) :
    ((commit .webhookLog (fun _ => true) f).catching fun _ => handler).Meets (contract agree tid)
      (fun _ => kept) (Refused tid) w := by
  rw [Proc.meets_catching]
  apply commit_meets
  intro t moved inv _ i _
  have hereₜ := stable w t moved here
  refine ⟨still tid _ i t, fun _ => caught t hereₜ, fun _ _ => caught t hereₜ,
    fun a t' _ done => ?_⟩
  obtain ⟨rows, rfl⟩ := logs i t a t' done
  have here' := aside t rows hereₜ
  exact and_assoc.mp ⟨aside_ledgers .webhookLog i inv rfl rfl rfl rfl, fun _ => here',
    fun _ => caught _ here'⟩

theorem updateOutcome_ledgers {tid : Nat} {logId : Option Nat} {data : WebhookLog → WebhookLog}
    {kept : World → Prop} {w : World} (here : kept w)
    (stable : ∀ s t, (contract agree tid).rely s t → kept s → kept t)
    (aside : ∀ s rows, kept s → kept { s with webhookLogs := rows }) :
    (updateOutcome logId data).Meets (contract agree tid) (fun _ => kept) (Refused tid) w := by
  unfold updateOutcome
  split
  · exact here
  · refine log_ledgers here stable ?_ aside fun _ here => ?_
    swap
    · exact here
    intro i s a t done
    obtain ⟨rows, -, -, rfl⟩ := map_pair_ok.mp done
    exact ⟨rows, rfl⟩

theorem handleWebhook_ledgers {tid : Nat} {signatureValid : Bool}
    {parsed : Option CollectionNotification} {w : World} (unused : tid ∉ w.credited) :
    (handleWebhook tid signatureValid parsed).Meets (contract agree tid)
      (fun delivery => Ended tid delivery.2) (Refused tid) w := by
  have recorded : (record "palmpay").Meets (contract agree tid) (fun _ t => tid ∉ t.credited)
      (Refused tid) w := by
    refine log_ledgers unused unused_stable ?_ (fun _ _ unused => unused) fun _ unused => ?_
    swap
    · exact unused
    intro i s a t done
    exact ⟨_, (Prod.mk.inj (Except.ok.inj done)).2.symm⟩
  rw [handleWebhook, Proc.meets_bind]
  apply recorded.imp _ fun _ _ refused => refused
  intro logId t unusedₜ
  split
  · rw [Proc.meets_bind, Proc.meets_attempt]
    apply (handle_ledgers unusedₜ).imp
    · intro delivery u ended
      simp only [Proc.meets_bind]
      exact @updateOutcome_ledgers agree tid logId _ (Ended tid delivery.2) u ended
        (ended_stable delivery.2) fun s _ ended => ended_congr (s := s) rfl ended
    · intro e u refused
      simp only [Proc.meets_bind]
      exact @updateOutcome_ledgers agree tid logId _ (Refused tid e) u refused refused_stable
        fun _ _ refused => refused
  · rw [Proc.meets_bind]
    apply (updateOutcome_ledgers unusedₜ unused_stable fun _ _ unused => unused).imp
    · exact fun _ _ unused _ => unused
    · exact fun _ _ refused => refused

theorem procedure_ledgers (tid : Nat) (op : Operation) {w : World} (unused : tid ∉ w.credited) :
    (procedure tid op).Meets (contract agree tid) (Ended tid) (Refused tid) w := by
  cases op with
  | handleWebhook signatureValid parsed =>
    rw [procedure, Proc.meets_bind]
    exact handleWebhook_ledgers unused
  | claimInflow userId loanId =>
    rw [procedure, Proc.meets_bind, Proc.meets_attempt]
    exact (claimInflow_ledgers unused).imp (fun _ _ _ => trivial) fun _ _ refused => refused
  | applyInflowToLoan userId inflowId loanId =>
    rw [procedure, Proc.meets_bind, Proc.meets_attempt]
    exact (applyInflowToLoan_ledgers unused).imp (fun _ _ _ => trivial) fun _ _ refused => refused

end Contract

structure Opened (w : World) : Prop where
  repayments : w.repayments = []
  credited : w.credited = []
  unmatched : ∀ inflow ∈ w.inflows, inflow.currency = .ngn → inflow.isMatched = false

abbrev Trace := List (Nat × Event World Answer Access)
abbrev Reached := Config World Answer Access AppError Answered

theorem Opened.holds {agree : Prop} {w₀ : World} (opened : Opened w₀) {trace : Trace}
    {c : Reached} (run : Runs procedure w₀ trace c)
    (contents : agree → ∀ e ∈ trace, sameContents e.2.label e.2.answer e.2.before = true) :
    (ledgers agree).Holds Ended Refused trace c := by
  have matched : Matched w₀ := by
    refine ⟨by simp [opened.repayments], by simp [opened.repayments], fun id inflow found ngn _ => ?_⟩
    have unmatched := opened.unmatched inflow (List.mem_of_getElem? found) ngn
    simp [opened.repayments, unmatched]
  have agreed : Agreed w₀ := by simp [Agreed, opened.repayments]
  exact run.holds ledgers_sound (fun tid => @ended_stable agree tid)
    (fun tid e => @refused_stable agree tid e) ⟨matched, fun _ => agreed⟩
    (fun tid => by simp [ledgers, opened.credited])
    (fun tid op w _ unused => procedure_ledgers tid op unused)
    fun e member asked => contents asked e member

/-- The operation ended without a credit, and not for a lost connection. -/
def NotCredited : Proc World Answer Access AppError Answered → Prop
  | .pure none => True
  | .pure (some (.error e)) => e ≠ .unavailable
  | .throw e => e ≠ .unavailable
  | _ => False

structure CreditedOnce (w₀ : World) (trace : Trace) (c : Reached) : Prop where
  once : (c.shared.repayments.map (·.inflowId)).Nodup
  marked : ∀ (id : Nat) (inflow : Inflow), c.shared.inflows[id]? = some inflow →
    inflow.currency = .ngn → ∀ loanId,
      inflow.isMatched = true ∧ inflow.sourceId = some loanId ↔
        ∃ r ∈ c.shared.repayments, r.inflowId = id ∧ r.loanId = loanId
  kept : ∀ first rest, trace = first ++ rest →
    (stateAfter w₀ first).repayments <+: c.shared.repayments
  refused : ∀ tid p, c.pool[tid]? = some p → NotCredited p →
    ∀ e ∈ trace, e.1 = tid → Untouched e.2.before e.2.after

/-- Each collection is credited once, in every run of deliveries, claims and applies. -/
theorem collections_credited_once {w₀ : World} {trace : Trace} {c : Reached}
    (opened : Opened w₀) (run : Runs procedure w₀ trace c) : CreditedOnce w₀ trace c := by
  have held := @Opened.holds False w₀ opened trace c run fun impossible => impossible.elim
  have matched := held.inv.1
  have later (first rest : Trace) (split : trace = first ++ rest) :
      (stateAfter w₀ first).repayments <+: c.shared.repayments ∧
        (stateAfter w₀ first).credited <:+ c.shared.credited := by
    apply run.keeps (fun w => (stateAfter w₀ first).repayments <+: w.repayments ∧
      (stateAfter w₀ first).credited <:+ w.credited) ?_ split ⟨List.prefix_rfl, List.suffix_rfl⟩
    rintro e member ⟨rows, past⟩
    obtain ⟨_, _, calls, grown, _⟩ := (held.events e member).2.2
    exact ⟨rows.trans grown, past.trans calls⟩
  refine ⟨matched.once, matched.marked, fun first rest split => (later first rest split).1,
    fun tid p found without e member same => ?_⟩
  obtain ⟨first, rest, split⟩ := List.append_of_mem member
  have past := (later (first ++ [e]) rest (by simp [split])).2
  rw [stateAfter_append] at past
  subst same
  apply (held.events e member).2.2.2.2.2.2
  intro credited
  have here : e.1 ∈ c.shared.credited := past.subset credited
  have ended := held.pool e.1 p found
  match p, without, ended with
  | .pure none, _, unused => exact unused here
  | .pure (some (.error _)), other, refused => exact refused other here
  | .throw _, other, refused => exact refused other here

def activeLoan : Loan where
  userId := 0
  disbursementAccountId := 0
  collateralAmountSat := 250000
  principalNgn := 100000
  satNgnRateAtCreation := 1
  status := .active
  collateralReceivedAt := some 0

def oneActiveLoan : World where
  loans := [activeLoan]
  repaymentAccounts := [⟨0, "0100000001"⟩]

theorem oneActiveLoan_opened : Opened oneActiveLoan :=
  ⟨rfl, rfl, fun _ member => absurd member List.not_mem_nil⟩

def notification (orderAmount : Int) : Operation :=
  .handleWebhook true (some ⟨"order-1", 1, orderAmount, some "0100000001", some "signature"⟩)

def settledWith (orderAmount : Int) : Answer :=
  { order := { orderStatus := some 1, orderAmount := some orderAmount } }

/-- Two deliveries of one order, both past the upsert before either credits. -/
def racingDeliveries : List (Choice Operation Answer) :=
  [.start (notification 4000000), .start (notification 4000000),
    .run 0 {}, .run 0 {}, .run 0 {}, .run 0 (settledWith 4000000), .run 0 {},
    .run 1 {}, .run 1 {}, .run 1 {}, .run 1 (settledWith 4000000), .run 1 {},
    .run 0 {}, .run 0 {}, .run 0 {}, .run 0 {}, .run 0 {}, .run 0 {},
    .run 1 {}, .run 1 {}, .run 1 {}, .run 1 {}, .run 1 {}, .run 1 {}]

def lostToUniqueIndex : Option (Proc World Answer Access AppError Answered) → Bool
  | some (.pure (some (.error .uniqueViolation))) => true
  | _ => false

theorem collections_credited_once_race : ∃ trace c, Runs procedure oneActiveLoan trace c ∧
    c.shared.repayments.length = 1 ∧ lostToUniqueIndex c.pool[1]? = true ∧
    CreditedOnce oneActiveLoan trace c := by
  have played := exists_run procedure oneActiveLoan racingDeliveries
    (fun _ c => decide (c.shared.repayments.length = 1 ∧ lostToUniqueIndex c.pool[1]? = true))
    (by decide +kernel)
  obtain ⟨trace, c, run, checked⟩ := played
  obtain ⟨single, lost⟩ := of_decide_eq_true checked
  exact ⟨trace, c, run, single, lost, collections_credited_once oneActiveLoan_opened run⟩

/-- In a run whose deliveries agree with what is stored under their order, the repayments
agree with the inflows. -/
theorem repayments_agree {w₀ : World} {trace : Trace} {c : Reached} (opened : Opened w₀)
    (run : Runs procedure w₀ trace c)
    (contents : ∀ e ∈ trace, sameContents e.2.label e.2.answer e.2.before = true) :
    Agreed c.shared :=
  (@Opened.holds True w₀ opened trace c run fun _ => contents).inv.2 trivial

/-- A delivery that PalmPay's books contradict is stored, and a claim of it is refused;
a second order of the user is credited. -/
def contradictedThenCredited : List (Choice Operation Answer) :=
  [.start (notification 5000000), .run 0 {}, .run 0 {}, .run 0 {},
    .run 0 (settledWith 2000000), .run 0 {}, .run 0 {}, .run 0 {},
    .start (.handleWebhook true (some ⟨"order-2", 1, 4000000, some "0100000001", none⟩)),
    .run 1 {}, .run 1 {}, .run 1 {}, .run 1 (settledWith 4000000), .run 1 {},
    .run 1 {}, .run 1 {}, .run 1 {}, .run 1 {}, .run 1 {}, .run 1 {},
    .start (.applyInflowToLoan 0 0 0), .run 2 {}, .run 2 {}]

theorem repayments_agree_contradicted : ∃ trace c, Runs procedure oneActiveLoan trace c ∧
    c.shared.repayments.length = 1 ∧ c.shared.inflows.length = 2 ∧ Agreed c.shared := by
  have played := exists_run procedure oneActiveLoan contradictedThenCredited
    (fun trace c => decide (c.shared.repayments.length = 1 ∧ c.shared.inflows.length = 2 ∧
      ∀ e ∈ trace, sameContents e.2.label e.2.answer e.2.before = true)) (by decide +kernel)
  obtain ⟨trace, c, run, checked⟩ := played
  obtain ⟨single, both, contents⟩ := of_decide_eq_true checked
  exact ⟨trace, c, run, single, both, repayments_agree oneActiveLoan_opened run contents⟩

/-- The order is stored with the amount that PalmPay's books contradicted, and credited
with the amount of the next delivery. -/
def redeliveredWithOtherAmount : List (Choice Operation Answer) :=
  [.start (notification 5000000), .run 0 {}, .run 0 {}, .run 0 {},
    .run 0 (settledWith 2000000), .run 0 {}, .run 0 {}, .run 0 {},
    .start (notification 2000000), .run 1 {}, .run 1 {}, .run 1 {},
    .run 1 (settledWith 2000000), .run 1 {},
    .run 1 {}, .run 1 {}, .run 1 {}, .run 1 {}, .run 1 {}, .run 1 {}]

theorem repayments_disagree : ∃ trace c, Opened oneActiveLoan ∧
    Runs procedure oneActiveLoan trace c ∧ ¬ Agreed c.shared := by
  have played := exists_run procedure oneActiveLoan redeliveredWithOtherAmount
    (fun _ c => decide ((c.shared.repayments.map fun r => (r.inflowId, r.amountNgn)) = [(0, 20000)] ∧
      (c.shared.inflows.map (·.amount)) = [50000])) (by decide +kernel)
  obtain ⟨trace, c, run, checked⟩ := played
  obtain ⟨rows, stored⟩ := of_decide_eq_true checked
  refine ⟨trace, c, oneActiveLoan_opened, run, fun agreed => ?_⟩
  obtain ⟨r, _, list, same, _⟩ := List.map_eq_cons_iff.mp rows
  obtain ⟨id, amount⟩ := Prod.mk.inj same
  obtain ⟨inflow, _, found, _, equal, _⟩ := agreed r (by simp [list])
  rw [id] at found
  have first : (c.shared.inflows.map (·.amount))[0]? = some inflow.amount := by simp [found]
  rw [stored, equal, amount] at first
  exact absurd (Option.some.inj first) (by norm_num)

end Bitmonie.CollectionLedger
