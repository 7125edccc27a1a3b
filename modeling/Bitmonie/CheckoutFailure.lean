import Bitmonie.ActivePayout

/-! A checkout that throws, and the loan that it may leave behind. -/
namespace Bitmonie.CheckoutFailure
open LoanStatusService CalculatorService LoansService PaymentRequestsService

def failsAt (answers : List Answer) (n : Nat) : Bool := (answers[n]?).any (·.fails)

def lostAt (answers : List Answer) (n : Nat) : Bool := (answers[n]?).any (·.lost)

section At
variable {i : Answer} {rest : List Answer} {n : Nat}

@[simp] theorem failsAt_zero : failsAt (i :: rest) 0 = i.fails := rfl
@[simp] theorem failsAt_succ : failsAt (i :: rest) (n + 1) = failsAt rest n := rfl
@[simp] theorem lostAt_zero : lostAt (i :: rest) 0 = i.lost := rfl
@[simp] theorem lostAt_succ : lostAt (i :: rest) (n + 1) = lostAt rest n := rfl

end At

theorem query_throws {α : Type} {a : Answer → World → α} (i : Answer) (w : World) :
    (∃ e, (if i.fails then (.error .unavailable, w) else (.ok (a i w), w) :
      Except AppError α × World).1 = .error e) ↔ i.fails = true := by
  cases i.fails <;> simp

/-- A statement that can be made throws only when the database does. -/
theorem committed_throws {α : Type} {f : Answer → World → Except AppError (α × World)}
    (made : ∀ i w, ∃ r, f i w = .ok r) (i : Answer) (w : World) :
    (∃ e, (committed f i w).1 = .error e) ↔ (i.fails || i.lost) = true := by
  obtain ⟨r, made⟩ := made i w
  cases fails : i.fails <;> cases lost : i.lost <;> simp [committed, fails, lost, made]

/-- An access whose throw is turned into another. -/
theorem exec_step {α β γ : Type} {label : Access} {f : Answer → World → Except AppError α × World}
    {next : α → Action β} {error : AppError} {after : β → Action γ} {broken : Answer → Bool}
    {answers : List Answer} {w : World} {r : Finished World Answer Access AppError γ}
    (throws : ∀ i w, (∃ e, (f i w).1 = .error e) ↔ broken i = true)
    (done : ((((Proc.access label (fun _ => true) f).bind next).catching fun _ => .throw error).bind
      after).exec answers w = some r) :
    ∃ i rest, answers = i :: rest ∧ ((broken i = true ∧ ∃ e, r.result = .error e) ∨
      (broken i = false ∧ ∃ a t tail,
        (((next a).catching fun _ => .throw error).bind after).exec rest t = some tail ∧
          r.result = tail.result)) := by
  obtain ⟨i, rest, rfl, ⟨a, tail, ended, ran, rfl⟩ | ⟨e, tail, ended, ran, rfl⟩⟩ :=
    Proc.exec_catching_bind done
  · refine ⟨i, rest, rfl, .inr ⟨?_, a, _, tail, ran, rfl⟩⟩
    by_contra breaks
    obtain ⟨e, thrown⟩ := (throws i w).mpr (by simpa using breaks)
    cases ended.symm.trans thrown
  · obtain rfl := Option.some.inj ran
    exact ⟨i, rest, rfl, .inl ⟨(throws i w).mp ⟨e, ended⟩, error, rfl⟩⟩

/-- After the loan: the invoice, the payment request, its cache and the user to be notified. -/
def requestFails (answers : List Answer) : Prop :=
  failsAt answers 0 = true ∨ failsAt answers 1 = true ∨ lostAt answers 1 = true ∨
    failsAt answers 2 = true ∨ lostAt answers 2 = true ∨ failsAt answers 3 = true

section Request
variable {params : CreatePaymentRequestParams} {result : PaymentRequest → CheckoutLoanResult}
  {answers : List Answer} {w : World} {f : Finished World Answer Access AppError CheckoutLoanResult}

/-- What `openLoan` does once the loan is created. -/
def requestLoan (params : CreatePaymentRequestParams) (result : PaymentRequest → CheckoutLoanResult) :
    Action CheckoutLoanResult :=
  ((create params).catching fun _ => .throw .collateralInvoiceFailed).bind fun request =>
  (query fun _ _ => .ok ()).bind fun _ => .pure (result request)

theorem requestLoan_leaves : (requestLoan params result).Leaves World.loans := by
  have queries {α : Type} {f : Answer → World → Except AppError α} : (query f).Leaves World.loans := by
    refine Proc.leaves_access fun i w => ?_
    split <;> rfl
  have commits {α : Type} {label : Access} {f : Answer → World → Except AppError (α × World)}
      (same : ∀ i w a w', f i w = .ok (a, w') → w'.loans = w.loans) :
      (commit label (fun _ => true) f).Leaves World.loans := by
    refine Proc.leaves_access fun i w => ?_
    have here : (fun t : World => t.loans = w.loans) w := rfl
    exact committed_keeps here fun a w' wrote => same i w a w' wrote
  refine Proc.Leaves.bind (.catching (queries.bind fun invoice => ?_) fun _ => trivial)
    fun request => queries.bind fun _ => trivial
  refine Proc.Leaves.bind (commits fun i w id w' wrote => by cases wrote; rfl) fun id => ?_
  exact Proc.Leaves.bind (commits fun i w _ w' wrote => by cases wrote; rfl) fun _ => trivial

theorem requestLoan_throws (done : (requestLoan params result).exec answers w = some f) :
    (∃ e, f.result = .error e) ↔ requestFails answers := by
  rw [requestLoan, create, createInvoice, query, queryAs] at done
  obtain ⟨asked, rest, rfl, ⟨fails, thrown⟩ | ⟨invoiced, invoice, t, tail, ran, same⟩⟩ :=
    exec_step query_throws done
  · simp [thrown, requestFails, fails]
  rw [insertRequest, commit] at ran
  obtain ⟨wrote, rest, rfl, ⟨breaks, thrown⟩ | ⟨written, id, t, tail, ran, same'⟩⟩ :=
    exec_step (committed_throws fun _ _ => ⟨_, rfl⟩) ran
  · rcases (Bool.or_eq_true _ _).mp breaks with breaks | breaks <;>
      simp [same, thrown, requestFails, breaks]
  rw [setPending, commit] at ran
  obtain ⟨set, rest, rfl, ⟨breaks, thrown⟩ | ⟨cached, now, t, tail, ran, same''⟩⟩ :=
    exec_step (committed_throws fun _ _ => ⟨_, rfl⟩) ran
  · rcases (Bool.or_eq_true _ _).mp breaks with breaks | breaks <;>
      simp [same, same', thrown, requestFails, breaks]
  have request : requestFails (asked :: wrote :: set :: rest) ↔ failsAt rest 0 = true := by
    simp only [Bool.or_eq_false_iff] at written cached
    simp [requestFails, invoiced, written.1, written.2, cached.1, cached.2]
  rw [request, same, same', same'']
  obtain ⟨read, rest, rfl, ⟨_, last, ended, done, rfl⟩ | ⟨e, ended, rfl⟩⟩ := Proc.exec_access_bind ran
  · obtain rfl := Option.some.inj done
    have found : read.fails = false := by
      by_contra fails
      rw [Bool.not_eq_false] at fails
      simp [fails] at ended
    simp [Finished.after, found]
  · have fails : read.fails = true := by
      by_contra made
      simp [made] at ended
    simp [fails]

end Request

section Loan
variable {user : User} {dto : CheckoutLoanDto} {accountId : Nat} {quote : CalculatorResult}
  {answers : List Answer} {w : World} {f : Finished World Answer Access AppError CheckoutLoanResult}

/-- The account is there, and the user has no loan that waits for its collateral. -/
structure Ready (user : User) (accountId : Nat) (w : World) : Prop where
  free : hasPendingLoan user.id w = false
  present : ∃ account, w.disbursementAccounts[accountId]? = some account ∧ account.deleted = false

theorem Ready.writes {row : Loan} (ready : Ready user row.disbursementAccountId w) :
    ∃ t, writeLoan user row w = .ok (w.loans.length, t) ∧ t.loans = w.loans ++ [row] := by
  obtain ⟨free, account, found, present⟩ := ready
  simp [writeLoan, free, found, present, transition, updateStatus, createTransition, bind, Except.bind,
    Except.map, pure, Except.pure]

/-- The loans of the user that wait for their collateral are those of `s`. -/
def NoneLeft (userId : Nat) (s t : World) : Prop :=
  ∀ (loanId : Nat) (loan : Loan), t.loans[loanId]? = some loan → loan.userId = userId →
    loan.status = .pendingCollateral → loanId < s.loans.length

theorem noneLeft_of_loans {t : World} (same : t.loans = w.loans) : NoneLeft user.id w t := by
  intro loanId loan found _ _
  rw [same] at found
  exact (List.getElem?_eq_some_iff.mp found).1

theorem left_of_created {t : World} {row : Loan} (created : t.loans = w.loans ++ [row])
    (own : row.userId = user.id) (pending : row.status = .pendingCollateral) :
    ¬ NoneLeft user.id w t := by
  intro none
  have found : t.loans[w.loans.length]? = some row := by simp [created]
  have := none _ row found own pending
  omega

def AllOrNothing (user : User) (w : World)
    (f : Finished World Answer Access AppError CheckoutLoanResult) : Prop :=
  (∃ e, f.result = .error e) → NoneLeft user.id w f.state

/-- The loan is there once its transaction is made, whatever comes after. -/
theorem openLoan_allOrNothing (ready : Ready user accountId w)
    (done : (openLoan user dto accountId quote).exec answers w = some f) :
    AllOrNothing user w f ↔
      ¬ (failsAt answers 0 = false ∧ (lostAt answers 0 = true ∨ requestFails (answers.drop 1))) := by
  rw [openLoan, createLoan, commit, ← Proc.bind_pure (.access ..)] at done
  obtain ⟨i, rest, rfl, step⟩ := Proc.exec_catching_bind done
  obtain ⟨t, writes, created⟩ := @Ready.writes user w (loanRow user dto accountId quote i.now) ready
  cases fails : i.fails with
  | true =>
    simp only [committed, fails, if_true] at step
    rcases step with ⟨_, _, thrown, _⟩ | ⟨e, tail, thrown, ran, rfl⟩
    · cases thrown
    obtain rfl := Option.some.inj ran
    have none : NoneLeft user.id w w := noneLeft_of_loans rfl
    simpa [AllOrNothing, Finished.after, fails] using none
  | false =>
    have left {u : World} (same : u.loans = t.loans) : ¬ NoneLeft user.id w u :=
      left_of_created (same.trans created) rfl rfl
    simp only [committed, fails, writes, Bool.false_eq_true, if_false] at step
    cases lost : i.lost with
    | true =>
      simp only [lost, if_true] at step
      rcases step with ⟨_, _, thrown, _⟩ | ⟨e, tail, thrown, ran, rfl⟩
      · cases thrown
      obtain rfl := Option.some.inj ran
      simpa [AllOrNothing, Finished.after, fails, lost] using left rfl
    | false =>
      simp only [lost, Bool.false_eq_true, if_false] at step
      rcases step with ⟨loanId, tail, ended, ran, rfl⟩ | ⟨_, _, thrown, _⟩
      · have throws := requestLoan_throws ran
        have kept := requestLoan_leaves.exec ran
        have stays : ¬ NoneLeft user.id w tail.state := left kept
        simp [AllOrNothing, Finished.after, fails, lost, stays, ← throws]
      · cases thrown

def ratesOf (i : Answer) : Except AppError (ℚ × ℚ) :=
  match i.rate, i.btcUsdRate with
  | some satNgnRate, some btcUsdRate => .ok (satNgnRate, btcUsdRate)
  | _, _ => .error (.failure i.text)

/-- What is checked before the loan is created, with the rates that are answered. -/
def checkoutTerms (user : User) (dto : CheckoutLoanDto) (i : Answer) (w : World) :
    Except AppError (Nat × CalculatorResult) := do
  checkoutGuard user dto
  if hasPendingLoan user.id w then throw .pendingLoanAlreadyExists
  let account ← resolveDefaultAccount user.id dto.disbursementAccountId w
  if 1 ≤ user.kycTier ∧ account.2.accountHolderName = none then throw .disbursementAccountUnverified
  let rates ← ratesOf i
  let quote ← calculate ⟨dto.principalNgn, rates.1, rates.2⟩
  return (account.1, quote)

/-- All of it passes, and the transaction that creates the loan is made. -/
def Creates (user : User) (dto : CheckoutLoanDto) (answers : List Answer) (w : World) : Prop :=
  (∀ n < 4, failsAt answers n = false) ∧
    ∃ i terms, answers[2]? = some i ∧ checkoutTerms user dto i w = .ok terms

/-- The transaction's answer is lost, or what comes after it fails. -/
def FailsAfterwards (answers : List Answer) : Prop :=
  lostAt answers 3 = true ∨ requestFails (answers.drop 4)

theorem resolveDefaultAccount_present {userId : Nat} {named : Option Nat}
    {found : Nat × DisbursementAccount} (done : resolveDefaultAccount userId named w = .ok found) :
    ∃ account, w.disbursementAccounts[found.1]? = some account ∧ account.deleted = false := by
  obtain ⟨present, own, -⟩ := resolveDefaultAccount_ok done
  simp only [owned, Bool.and_eq_true, Bool.not_eq_true'] at own
  exact ⟨found.2, present, own.2⟩

/-- A read ends the call in the state it started in, or answers and the call goes on. -/
theorem query_exec {α β : Type} {label : Access} {g : Answer → World → Except AppError α}
    {next : α → Action β} {r : Finished World Answer Access AppError β}
    (done : ((queryAs label g).bind next).exec answers w = some r) :
    ∃ i rest, answers = i :: rest ∧
      (((i.fails = true ∨ ∃ e, g i w = .error e) ∧ r.state = w) ∨
        ∃ a tail, i.fails = false ∧ g i w = .ok a ∧ (next a).exec rest w = some tail ∧
          r.result = tail.result ∧ r.state = tail.state) := by
  obtain ⟨i, rest, rfl, ⟨a, tail, ended, ran, rfl⟩ | ⟨e, ended, rfl⟩⟩ := Proc.exec_access_bind done
  · cases fails : i.fails with
    | true => simp [fails] at ended
    | false =>
      simp only [fails, Bool.false_eq_true, if_false] at ended ran
      exact ⟨i, rest, rfl, .inr ⟨a, tail, fails, ended, ran, rfl, rfl⟩⟩
  · cases fails : i.fails with
    | true => exact ⟨i, rest, rfl, .inl ⟨.inl fails, by simp⟩⟩
    | false =>
      simp only [fails, Bool.false_eq_true, if_false] at ended
      exact ⟨i, rest, rfl, .inl ⟨.inr ⟨e, ended⟩, by simp⟩⟩

/-- What passed when there are terms. -/
theorem checkoutTerms_ok {i : Answer} {terms : Nat × CalculatorResult}
    (decided : checkoutTerms user dto i w = .ok terms) :
    checkoutGuard user dto = .ok () ∧ hasPendingLoan user.id w = false ∧
    ∃ account rates, resolveDefaultAccount user.id dto.disbursementAccountId w = .ok account ∧
      ¬ (1 ≤ user.kycTier ∧ account.2.accountHolderName = none) ∧ ratesOf i = .ok rates ∧
      calculate ⟨dto.principalNgn, rates.1, rates.2⟩ = .ok terms.2 := by
  unfold checkoutTerms at decided
  cases guarded : checkoutGuard user dto with
  | error e => simp [guarded, bind, Except.bind] at decided
  | ok =>
  cases free : hasPendingLoan user.id w with
  | true => simp [guarded, free, bind, Except.bind] at decided
  | false =>
  cases chosen : resolveDefaultAccount user.id dto.disbursementAccountId w with
  | error e => simp [guarded, free, chosen, bind, Except.bind] at decided
  | ok account =>
  by_cases unmatched : 1 ≤ user.kycTier ∧ account.2.accountHolderName = none
  · simp [guarded, free, chosen, unmatched, bind, Except.bind] at decided
  cases rated : ratesOf i with
  | error e => simp [guarded, free, chosen, unmatched, rated, bind, Except.bind] at decided
  | ok rates =>
  cases quoted : calculate ⟨dto.principalNgn, rates.1, rates.2⟩ with
  | error e => simp [guarded, free, chosen, unmatched, rated, quoted, bind, Except.bind] at decided
  | ok quote =>
    simp only [guarded, free, chosen, unmatched, rated, quoted, bind, Except.bind, pure, Except.pure,
      Bool.false_eq_true, if_false] at decided
    obtain rfl := Except.ok.inj decided
    exact ⟨rfl, rfl, account, rates, rfl, unmatched, rfl, quoted⟩

/-- The account is chosen: the loan is opened on a quote, or the call ends before it. -/
theorem priced_exec {account : Nat × DisbursementAccount}
    (done : (currentRates.bind fun rates =>
      (Proc.ofExcept (calculate ⟨dto.principalNgn, rates.1, rates.2⟩)).bind fun quote =>
      openLoan user dto account.1 quote).exec answers w = some f) :
    ∃ i rest, answers = i :: rest ∧
      (f.state = w ∧ (i.fails = true ∨ ∀ rates quote, ratesOf i = .ok rates →
          calculate ⟨dto.principalNgn, rates.1, rates.2⟩ ≠ .ok quote) ∨
        ∃ rates quote tail, i.fails = false ∧ ratesOf i = .ok rates ∧
          calculate ⟨dto.principalNgn, rates.1, rates.2⟩ = .ok quote ∧
          (openLoan user dto account.1 quote).exec rest w = some tail ∧
          f.result = tail.result ∧ f.state = tail.state) := by
  rw [show currentRates = queryAs .read fun i _ => ratesOf i from rfl] at done
  obtain ⟨i, rest, rfl, ⟨failed, same⟩ | ⟨rates, tail, made, rated, ran, result, state⟩⟩ :=
    query_exec done
  · refine ⟨i, rest, rfl, .inl ⟨same, failed.imp id ?_⟩⟩
    rintro ⟨e, refused⟩ rates quote rated
    cases refused.symm.trans rated
  cases quoted : calculate ⟨dto.principalNgn, rates.1, rates.2⟩ with
  | error e =>
    rw [quoted] at ran
    obtain rfl := Option.some.inj ran
    refine ⟨i, rest, rfl, .inl ⟨state, .inr fun rates' quote rated' priced => ?_⟩⟩
    obtain rfl := Except.ok.inj (rated.symm.trans rated')
    cases quoted.symm.trans priced
  | ok quote =>
    rw [quoted, Proc.ofExcept, Proc.pure_bind] at ran
    exact ⟨i, rest, rfl, .inr ⟨rates, quote, tail, made, rated, quoted, ran, result, state⟩⟩

/-- On terms, what is left to fail is the transaction. -/
theorem creates_iff {i₀ i₁ i₂ : Answer} {terms : Nat × CalculatorResult} (made₀ : i₀.fails = false)
    (made₁ : i₁.fails = false) (made₂ : i₂.fails = false)
    (decided : checkoutTerms user dto i₂ w = .ok terms) :
    Creates user dto (i₀ :: i₁ :: i₂ :: answers) w ↔ failsAt answers 0 = false := by
  refine ⟨fun both => both.1 3 (by omega), fun made₃ => ⟨fun n early => ?_, i₂, _, rfl, decided⟩⟩
  obtain rfl | rfl | rfl | rfl : n = 0 ∨ n = 1 ∨ n = 2 ∨ n = 3 := by omega
  · exact made₀
  · exact made₁
  · exact made₂
  · exact made₃

/-- A checkout that throws leaves a loan of its user behind exactly when the loan was created. -/
theorem checkoutLoan_allOrNothing (user : User) (dto : CheckoutLoanDto) (answers : List Answer)
    (w : World) (f : Finished World Answer Access AppError CheckoutLoanResult)
    (done : (checkoutLoan user dto).exec answers w = some f) :
    AllOrNothing user w f ↔ ¬ (Creates user dto answers w ∧ FailsAfterwards answers) := by
  have early (same : f.state = w) (refused : ¬ Creates user dto answers w) :
      AllOrNothing user w f ↔ ¬ (Creates user dto answers w ∧ FailsAfterwards answers) :=
    iff_of_true (fun _ => noneLeft_of_loans (same ▸ rfl)) fun both => refused both.1
  rw [checkoutLoan] at done
  cases guarded : checkoutGuard user dto with
  | error e =>
    rw [guarded] at done
    obtain rfl := Option.some.inj done
    refine early rfl ?_
    rintro ⟨_, i, terms, _, decided⟩
    cases guarded.symm.trans (checkoutTerms_ok decided).1
  | ok =>
    rw [guarded, Proc.ofExcept, Proc.pure_bind, query] at done
    obtain ⟨i₀, rest, rfl, ⟨failed, same⟩ | ⟨pending, tail, made₀, counted, ran, result, state⟩⟩ :=
      query_exec done
    · refine early same ?_
      rintro ⟨serves, _⟩
      have made : i₀.fails = false := serves 0 (by omega)
      simp [made] at failed
    obtain rfl := Except.ok.inj counted
    cases free : hasPendingLoan user.id w with
    | true =>
      rw [free, if_pos rfl] at ran
      obtain rfl := Option.some.inj ran
      refine early state ?_
      rintro ⟨_, i, terms, _, decided⟩
      cases free.symm.trans (checkoutTerms_ok decided).2.1
    | false =>
      rw [free, if_neg Bool.false_ne_true, readAccount] at ran
      obtain ⟨i₁, rest, rfl, ⟨failed, same⟩ | ⟨account, tail, made₁, chosen, ran, result', state'⟩⟩ :=
        query_exec ran
      · refine early (state.trans same) ?_
        rintro ⟨serves, i, terms, _, decided⟩
        have made : i₁.fails = false := serves 1 (by omega)
        obtain ⟨-, -, account, rates, chosen, -⟩ := checkoutTerms_ok decided
        rcases failed with fails | ⟨e, refused⟩
        · cases fails.symm.trans made
        · cases refused.symm.trans chosen
      split at ran
      · rename_i unmatched
        obtain rfl := Option.some.inj ran
        refine early (state.trans state') ?_
        rintro ⟨_, i, terms, _, decided⟩
        obtain ⟨-, -, account', rates, chosen', matched, -⟩ := checkoutTerms_ok decided
        obtain rfl := Except.ok.inj (chosen.symm.trans chosen')
        exact matched unmatched
      rename_i matched
      obtain ⟨i₂, rest, rfl, ⟨same, failed⟩ |
        ⟨rates, quote, tail, made₂, rated, quoted, ran, result'', state''⟩⟩ := priced_exec ran
      · refine early (state.trans (state'.trans same)) ?_
        rintro ⟨serves, i, terms, third, decided⟩
        have made : i₂.fails = false := serves 2 (by omega)
        obtain rfl : i₂ = i := by simpa using third
        obtain ⟨-, -, account', rates, -, -, rated, quoted⟩ := checkoutTerms_ok decided
        rcases failed with fails | refused
        · cases fails.symm.trans made
        · exact refused rates terms.2 rated quoted
      have ready : Ready user account.1 w := ⟨free, resolveDefaultAccount_present chosen⟩
      have decided : checkoutTerms user dto i₂ w = .ok (account.1, quote) := by
        simp [checkoutTerms, guarded, free, chosen, matched, rated, quoted, bind, Except.bind, pure,
          Except.pure]
      have same : AllOrNothing user w f ↔ AllOrNothing user w tail := by
        rw [AllOrNothing, AllOrNothing, result, result', result'', state, state', state'']
      rw [same, openLoan_allOrNothing ready ran, creates_iff made₀ made₁ made₂ decided]
      rfl

end Loan

open ActivePayout (banked checkoutAnswers)

def borrower : User := { id := 0 }

def request : CheckoutLoanDto := { principalNgn := 100000 }

theorem checkoutLoan_allOrNothing_sample : ∃ f,
    (checkoutLoan borrower request).exec checkoutAnswers banked = some f ∧
      (AllOrNothing borrower banked f ↔
        ¬ (Creates borrower request checkoutAnswers banked ∧ FailsAfterwards checkoutAnswers)) := by
  have ends : ((checkoutLoan borrower request).exec checkoutAnswers banked).isSome = true := by
    decide +kernel
  obtain ⟨f, done⟩ := Option.isSome_iff_exists.mp ends
  exact ⟨f, done, checkoutLoan_allOrNothing borrower request checkoutAnswers banked f done⟩

def invoiceFails : List Answer := checkoutAnswers.take 4 ++ [{ fails := true }]

/-- The expiry worker finds no loan that has no request. -/
theorem expiredLoans_requested {w : World} (none : w.paymentRequests = []) (now : Time) :
    LoanExpiryWorker.expiredLoans now w = [] := by
  simp [LoanExpiryWorker.expiredLoans, none]

def wasRefused (error : AppError) (f : Finished World Answer Access AppError CheckoutLoanResult) : Bool :=
  match f.result with
  | .error e => e = error
  | .ok _ => false

/-- The failed checkout leaves a loan that the worker never expires, and the next checkout is
refused because of it. -/
theorem checkoutLoan_leaves_loan : ∃ f g,
    (checkoutLoan borrower request).exec invoiceFails banked = some f ∧
    wasRefused .collateralInvoiceFailed f = true ∧ ¬ AllOrNothing borrower banked f ∧
    (∀ now, LoanExpiryWorker.expiredLoans now f.state = []) ∧
    (checkoutLoan borrower request).exec checkoutAnswers f.state = some g ∧
    wasRefused .pendingLoanAlreadyExists g = true := by
  have ends : ((checkoutLoan borrower request).exec invoiceFails banked).any (fun f =>
      wasRefused .collateralInvoiceFailed f && f.state.paymentRequests.isEmpty &&
      f.state.loans.map (fun loan => (loan.userId, loan.status)) = [(0, .pendingCollateral)] &&
      ((checkoutLoan borrower request).exec checkoutAnswers f.state).any
        (wasRefused .pendingLoanAlreadyExists)) = true := by
    decide +kernel
  obtain ⟨f, done, checked⟩ := (Option.any_eq_true _ _).mp ends
  simp only [Bool.and_eq_true, List.isEmpty_iff, decide_eq_true_eq] at checked
  obtain ⟨⟨⟨refused, none⟩, rows⟩, next⟩ := checked
  obtain ⟨g, done', refused'⟩ := (Option.any_eq_true _ _).mp next
  refine ⟨f, g, done, refused, fun nothing => ?_, expiredLoans_requested none, done', refused'⟩
  obtain ⟨loan, loans, ended⟩ := List.map_eq_singleton_iff.mp rows
  obtain ⟨own, pending⟩ := Prod.mk.inj ended
  have throws : ∃ e, f.result = .error e := by
    unfold wasRefused at refused
    split at refused
    · exact ⟨_, by assumption⟩
    · cases refused
  have old := nothing throws 0 loan (by simp [loans]) own pending
  simp [banked] at old

end Bitmonie.CheckoutFailure
