import Bitmonie.DisbursementAccounts
import Bitmonie.KycTier

/-! Whether every loan can be paid out: which accounts loans are taken to, when accounts come
and go and borrowers are verified or not, with any number of calls under way. -/
namespace Bitmonie.DisbursementAccountsService
open LoansService (owned CheckoutLoanDto checkoutLoan createLoan readAccount writeLoan_ok
  resolveDefaultAccount resolveDefaultAccount_ok acceptable checkoutLoan_meets_chosen)
open KycService (KycStore KycReply KycAccess KycError KycAction)

/-- The loan is paid out over a bank or a mobile wallet, to a holder whose name was matched. -/
def Payable (loan : Loan) (w : World) : Prop :=
  ∃ account, w.disbursementAccounts[loan.disbursementAccountId]? = some account ∧
    account.deleted = false ∧ (account.kind = .bank ∨ account.kind = .mobileMoney) ∧
      account.accountHolderName ≠ none

theorem payable_iff {loan : Loan} {w : World} :
    ((w.disbursementAccounts[loan.disbursementAccountId]?).any fun account => !account.deleted &&
      (account.kind = .bank || account.kind = .mobileMoney) && account.accountHolderName ≠ none) =
        true ↔ Payable loan w := by
  simp [Payable, Option.any_eq_true, and_assoc]

instance (loan : Loan) (w : World) : Decidable (Payable loan w) := decidable_of_iff _ payable_iff

/-- A borrower who is not verified names no address of theirs on a chain. -/
def payableChoice (label : Access) (w : World) : Bool :=
  match label with
  | .readAccount userId 0 (some accountId) =>
    !(w.disbursementAccounts[accountId]?).any (isKind userId .cryptoAddress)
  | _ => true

def payableRequest (label : BackendAccess) (b : Backend) : Bool :=
  label.elim (fun label => payableChoice label b.world) fun _ => true

/-- What of an account decides whether a loan can be paid out to it. -/
def key (account : DisbursementAccount) : DisbursementAccountKind × Bool × Bool :=
  (account.kind, account.accountHolderName.isSome, account.deleted)

/-- Accounts of all kinds but one have a holder, and loans are taken to these. -/
structure Sound (w : World) : Prop where
  matched : ∀ (accountId : Nat) (account : DisbursementAccount),
    w.disbursementAccounts[accountId]? = some account →
      (account.accountHolderName.isSome = true ↔ account.kind ≠ .cryptoAddress)
  loans : ∀ (loanId : Nat) (loan : Loan), w.loans[loanId]? = some loan →
    ∃ account, w.disbursementAccounts[loan.disbursementAccountId]? = some account ∧
      account.deleted = false ∧ account.kind ≠ .cryptoAddress

def Kept (s t : World) : Prop :=
  ∀ (accountId : Nat) (account : DisbursementAccount),
    s.disbursementAccounts[accountId]? = some account →
      ∃ account', t.disbursementAccounts[accountId]? = some account' ∧ account'.kind = account.kind

def contract : Contract World Answer Access where
  inv := Sound
  allowed label _ w := payableChoice label w = true
  rely := Kept
  guar _ _ := Kept

theorem Kept.refl (w : World) : Kept w w := fun _ account found => ⟨account, found, rfl⟩

theorem Kept.trans {r s t : World} (first : Kept r s) (second : Kept s t) : Kept r t := by
  intro accountId account found
  obtain ⟨account', found', same⟩ := first accountId account found
  obtain ⟨account'', found'', same'⟩ := second accountId account' found'
  exact ⟨account'', found'', same'.trans same⟩

section Tables
variable {s t w : World} {accountId : Nat} {account row : DisbursementAccount}

theorem Sound.payable {loan : Loan} {loanId : Nat} (sound : Sound w)
    (found : w.loans[loanId]? = some loan) : Payable loan w := by
  obtain ⟨account, there, present, kind⟩ := sound.loans loanId loan found
  have holder := (sound.matched _ account there).mpr kind
  refine ⟨account, there, present, ?_, by simpa [Option.isSome_iff_ne_none] using holder⟩
  cases kind' : account.kind with
  | bank => exact .inl rfl
  | mobileMoney => exact .inr rfl
  | cryptoAddress => exact absurd kind' kind

theorem found_of_keys {l l' : List DisbursementAccount} (keys : l'.map key = l.map key)
    (found : l[accountId]? = some account) :
    ∃ account', l'[accountId]? = some account' ∧ key account' = key account := by
  have same := congrArg (·[accountId]?) keys
  simp only [List.getElem?_map, found, Option.map_some] at same
  exact Option.map_eq_some_iff.mp same

/-- A statement that leaves the loans alone, and of each account what decides. -/
theorem Sound.of_keys (sound : Sound s) (loans : t.loans = s.loans)
    (keys : t.disbursementAccounts.map key = s.disbursementAccounts.map key) :
    Sound t ∧ Kept s t := by
  refine ⟨⟨fun accountId account found => ?_, fun loanId loan found => ?_⟩,
    fun accountId account found => ?_⟩
  · obtain ⟨old, there, same⟩ := found_of_keys keys.symm found
    simp only [key, Prod.mk.injEq] at same
    rw [← same.1, ← same.2.1]
    exact sound.matched accountId old there
  · obtain ⟨account, there, present, kind⟩ := sound.loans loanId loan (loans ▸ found)
    obtain ⟨account', there', same⟩ := found_of_keys keys there
    simp only [key, Prod.mk.injEq] at same
    exact ⟨account', there', same.2.2.trans present, same.1 ▸ kind⟩
  · obtain ⟨account', there', same⟩ := found_of_keys keys found
    exact ⟨account', there', congrArg Prod.fst same⟩

theorem keys_set {l : List DisbursementAccount} (found : l[accountId]? = some account)
    (same : key row = key account) : (l.set accountId row).map key = l.map key := by
  apply List.ext_getElem?
  intro other
  rw [List.map_set, List.getElem?_set, same]
  split
  · rename_i here
    subst here
    split
    · simp [found]
    · rename_i beyond
      have := (List.getElem?_eq_some_iff.mp found).1
      simp at beyond
      omega
  · rfl

theorem Sound.create_account (sound : Sound s)
    (matched : row.accountHolderName.isSome = true ↔ row.kind ≠ .cryptoAddress) :
    Sound { s with disbursementAccounts := s.disbursementAccounts ++ [row] } ∧
      Kept s { s with disbursementAccounts := s.disbursementAccounts ++ [row] } := by
  refine ⟨⟨fun accountId account found => ?_, fun loanId loan found => ?_⟩,
    fun accountId account found => ⟨account, concat_of_row found, rfl⟩⟩
  · rcases row_of_concat found with old | ⟨_, rfl⟩
    · exact sound.matched accountId account old
    · exact matched
  · obtain ⟨account, there, rest⟩ := sound.loans loanId loan found
    exact ⟨account, concat_of_row there, rest⟩

theorem Sound.create_loan {loan : Loan} {logs : List LoanStatusLog} (sound : Sound s)
    (found : s.disbursementAccounts[loan.disbursementAccountId]? = some account)
    (present : account.deleted = false) (kind : account.kind ≠ .cryptoAddress) :
    Sound { s with loans := s.loans ++ [loan], statusLogs := logs } := by
  refine ⟨sound.matched, fun loanId other there => ?_⟩
  rcases row_of_concat there with old | ⟨_, rfl⟩
  · exact sound.loans loanId other old
  · exact ⟨account, found, present, kind⟩

theorem makeDefault_keys {l l' : List DisbursementAccount} (done : makeDefault accountId l = .ok l') :
    l'.map key = l.map key := by
  obtain ⟨account, found, -, rfl⟩ := makeDefault_ok done
  exact keys_set found rfl

theorem clearDefault_keys {userId : Nat} {kind : DisbursementAccountKind}
    {l : List DisbursementAccount} : (clearDefault userId kind l).map key = l.map key := by
  simp [clearDefault, key]

theorem promoteNext_keys {userId : Nat} {l l' : List DisbursementAccount}
    (done : promoteNext userId account l = .ok l') : l'.map key = l.map key := by
  rcases promoteNext_ok done with ⟨rfl, -⟩ | ⟨-, id, next, found, -, rfl⟩
  · rfl
  · exact keys_set found rfl

theorem Sound.delete (sound : Sound s) (found : s.disbursementAccounts[accountId]? = some account)
    (unused : ∀ loan ∈ s.loans, loan.disbursementAccountId ≠ accountId) :
    let t := { s with disbursementAccounts :=
      s.disbursementAccounts.set accountId { account with deleted := true } }
    Sound t ∧ Kept s t := by
  refine ⟨⟨fun other read there => ?_, fun loanId loan there => ?_⟩, fun other read there => ?_⟩
  · rcases getElem?_set_cases there with ⟨rfl, rfl⟩ | ⟨_, old⟩
    · exact sound.matched other account found
    · exact sound.matched other read old
  · obtain ⟨read, old, rest⟩ := sound.loans loanId loan there
    have different := unused loan (List.mem_of_getElem? there)
    exact ⟨read, (List.getElem?_set_ne (Ne.symm different)).trans old, rest⟩
  · by_cases same : other = accountId
    · subst same
      obtain rfl := Option.some.inj (found.symm.trans there)
      exact ⟨_, getElem?_set_of_eq found, rfl⟩
    · exact ⟨read, (List.getElem?_set_ne (Ne.symm same)).trans there, rfl⟩

end Tables

section World
variable {userId accountId : Nat} {s w : World}

def view (w : World) : List Loan × List DisbursementAccount := (w.loans, w.disbursementAccounts)

theorem leaves_sound {α : Type} {p : Action α} (leaves : p.Leaves view) : p.Complies contract := by
  refine leaves.complies fun _ _ s t same sound => ?_
  obtain ⟨loans, accounts⟩ := Prod.mk.inj same
  exact Sound.of_keys sound loans (accounts ▸ rfl)

/-- A statement whose writes keep the tables sound. -/
theorem commit_sound {α : Type} {label : Access} {f : Answer → World → Except AppError (α × World)}
    (writes : ∀ i t a t', payableChoice label t = true → Kept s t → Sound t → f i t = .ok (a, t') →
      Sound t' ∧ Kept t t') :
    (commit label (fun _ => true) f).Meets contract (fun _ _ => True) (fun _ _ => True) s := by
  refine commit_meets fun t moved sound _ i allowed => ?_
  refine ⟨.refl t, fun _ => trivial, fun _ _ => trivial, fun a t' _ done => ?_⟩
  obtain ⟨sound', kept⟩ := writes i t a t' allowed moved sound done
  exact ⟨sound', kept, fun _ => trivial, fun _ => trivial⟩

theorem createAccount_sound {dto : AddDisbursementAccountDto} {matched : Option (String × ℚ)}
    {isFirst : Bool} (named : matched.isSome = true ↔ dto.kind ≠ .cryptoAddress) :
    (createAccount userId dto matched isFirst).Complies contract := by
  refine fun s => commit_sound fun i t created t' _ _ sound done => ?_
  obtain ⟨-, done⟩ := unless_ok.mp done
  obtain ⟨_, rfl⟩ := Prod.mk.inj (Except.ok.inj done)
  exact sound.create_account (by simpa [accountRow] using named)

theorem writeDefault_sound {kind : DisbursementAccountKind} :
    (writeDefault userId accountId kind).Complies contract := by
  refine fun s => commit_sound fun i t _ t' _ _ sound done => ?_
  obtain ⟨accounts, made, -, rfl⟩ := map_pair_ok.mp done
  exact sound.of_keys rfl ((makeDefault_keys made).trans clearDefault_keys)

theorem writeDeletion_sound {read : DisbursementAccount} :
    (writeDeletion userId accountId read).Complies contract := by
  refine fun s => commit_sound fun i t _ t' _ _ sound done => ?_
  obtain ⟨left, removed, done⟩ := bind_ok.mp done
  obtain ⟨account, found, unused, rfl⟩ := removeAccount_ok removed
  obtain ⟨accounts, promoted, ended⟩ := bind_ok.mp done
  obtain ⟨_, rfl⟩ := Prod.mk.inj (Except.ok.inj ended)
  obtain ⟨deleted, kept⟩ := sound.delete found unused
  obtain ⟨sound', kept'⟩ := deleted.of_keys (t := { t with disbursementAccounts := accounts }) rfl
    (promoteNext_keys promoted)
  exact ⟨sound', kept.trans kept'⟩

def Chosen (accountId : Nat) (w : World) : Prop :=
  ∃ account, w.disbursementAccounts[accountId]? = some account ∧ account.kind ≠ .cryptoAddress

theorem Chosen.kept {t : World} (kept : Kept s t) (chosen : Chosen accountId s) : Chosen accountId t := by
  obtain ⟨account, found, kind⟩ := chosen
  obtain ⟨account', found', same⟩ := kept accountId account found
  exact ⟨account', found', same ▸ kind⟩

/-- Both branches of the lookup find an account that can be paid out to. -/
theorem resolveDefaultAccount_chosen {user : LoansService.User} {named : Option Nat}
    {found : Nat × DisbursementAccount} (sound : Sound w)
    (choice : payableChoice (.readAccount user.id user.kycTier named) w = true)
    (done : resolveDefaultAccount user.id named w = .ok found)
    (accepted : acceptable user found.2) : Chosen found.1 w := by
  obtain ⟨present, own, same, unnamed⟩ := resolveDefaultAccount_ok done
  refine ⟨found.2, present, fun kind => ?_⟩
  cases named with
  | none => exact absurd kind (unnamed rfl)
  | some accountId =>
    obtain rfl := same accountId rfl
    cases tier : user.kycTier with
    | zero => simp [payableChoice, tier, present, isKind, own, kind] at choice
    | succ below =>
      have matched := accepted (by omega)
      have holder := (sound.matched found.1 found.2 present).mp
        (by simpa [Option.isSome_iff_ne_none] using matched)
      exact holder kind

theorem readAccount_chosen {user : LoansService.User} {dto : CheckoutLoanDto} :
    (readAccount user dto).Meets contract
      (fun found t => acceptable user found.2 → Chosen found.1 t) (fun _ _ => True) w := by
  refine queryAs_meets fun t _ sound i choice => ⟨.refl t, trivial, fun _ _ => trivial, ?_⟩
  intro found done accepted
  exact resolveDefaultAccount_chosen sound choice done accepted

theorem createLoan_sound {user : LoansService.User} {dto : CheckoutLoanDto}
    {quote : CalculatorService.CalculatorResult} (chosen : Chosen accountId w) :
    (createLoan user dto accountId quote).Meets contract (fun _ _ => True) (fun _ _ => True) w := by
  rw [createLoan, Proc.meets_catching]
  have inserts := @commit_sound w _ (.createLoan user.id) (fun i w =>
    LoansService.writeLoan user (LoansService.loanRow user dto accountId quote i.now) w)
      fun i t loanId t' _ moved sound done => by
    obtain ⟨rfl, ⟨account, found, present⟩, rfl⟩ := writeLoan_ok done
    obtain ⟨read, there, kind⟩ := chosen.kept moved
    obtain rfl := Option.some.inj (found.symm.trans there)
    exact ⟨sound.create_loan found present kind, .refl t⟩
  exact inserts.imp (fun _ _ _ => trivial) fun _ _ _ => trivial

theorem createRequest_leaves {params : PaymentRequestsService.CreatePaymentRequestParams} :
    (PaymentRequestsService.create params).Leaves view := by
  refine query_leaves.bind fun invoice => ?_
  have inserts : (PaymentRequestsService.insertRequest
      (PaymentRequestsService.requestRow params invoice)).Leaves view :=
    commit_leaves fun _ _ _ _ done => by
      obtain ⟨_, rfl⟩ := Prod.mk.inj (Except.ok.inj done)
      rfl
  refine inserts.bind fun id => ?_
  have caches : (PaymentRequestsService.setPending invoice.receivingAddress (some id)).Leaves view :=
    commit_leaves fun _ _ _ _ done => by
      obtain ⟨_, rfl⟩ := Prod.mk.inj (Except.ok.inj done)
      rfl
  exact caches.bind fun _ => trivial

theorem checkoutLoan_sound {user : LoansService.User} {dto : CheckoutLoanDto} :
    (checkoutLoan user dto).Complies contract := by
  intro w
  refine checkoutLoan_meets_chosen (fun _ t => .refl t) (fun _ => readAccount_chosen)
    (fun _ _ _ kept => Chosen.kept kept) (fun _ _ _ => createLoan_sound) ?_
  exact fun _ _ t _ => leaves_sound createRequest_leaves t

end World

def paying : Discipline Backend BackendAnswer BackendAccess where
  inv b := Sound b.world
  allowed label _ b := payableRequest label b = true
  fresh _ _ := True
  rely _ s t := Kept s.world t.world
  guar _ _ _ s t := Kept s.world t.world

theorem paying_sound : paying.Sound where
  refl _ b := .refl b.world
  trans _ _ _ _ := Kept.trans
  compatible _ _ _ _ _ _ _ _ guar := guar
  fresh _ _ _ _ _ := trivial

section Backends
variable {tid userId accountId : Nat}

theorem onWorld_complies {α : Type} {p : Action α} (complies : p.Complies contract) :
    (onWorld p).Complies (paying.contract tid) := by
  intro b
  let kept (_ : Backend) : Prop := True
  let post (_ : α) (_ : World) : Prop := True
  have meets : p.Meets contract post (fun _ _ => True) (worldPart.get b) := complies b.world
  have zoomed : (p.zoom worldPart).Meets (paying.contract tid)
      (fun a t => post a (worldPart.get t) ∧ kept t) (fun _ => kept) b := by
    refine Proc.Meets.zoom ?_ ?_ ?_ trivial meets
    · exact fun s t rely _ => ⟨rely, trivial⟩
    · exact fun label i t sound _ allowed => ⟨sound, allowed⟩
    · exact fun label i t u _ _ sound rely => ⟨sound, rely, trivial⟩
  exact zoomed.imp (fun _ _ _ => trivial) fun _ _ _ => trivial

theorem onKyc_complies {α : Type} {p : KycAction α} : (onKyc p).Complies (paying.contract tid) := by
  have leaves : (onKyc p).Leaves Backend.world := Proc.leaves_zoom fun _ _ => rfl
  refine leaves.complies fun _ _ s t same sound => ?_
  exact Sound.of_keys sound (congrArg World.loans same)
    (congrArg (·.disbursementAccounts.map key) same)

theorem lookupAccountName_leaves {β : Type} {view : World → β} {kind : DisbursementAccountKind} :
    (lookupAccountName kind).Leaves view := by
  unfold lookupAccountName
  cases kindToRail kind with
  | none => trivial
  | some rail => exact (Proc.leaves_ofExcept _).bind fun _ => query_leaves

theorem matchName_complies {kind : DisbursementAccountKind} :
    (matchName userId kind).Complies (paying.contract tid) := by
  unfold matchName
  refine onKyc_complies.bind fun user => ?_
  split
  · exact Proc.complies_throw
  refine Proc.Complies.bind ?_ fun canonical => ?_
  · unfold canonicalName
    split
    · exact fun _ => trivial
    · exact onKyc_complies.bind fun _ _ => trivial
  refine (onWorld_complies (leaves_sound lookupAccountName_leaves)).bind fun fetched => ?_
  cases matchFetched canonical fetched with
  | error e => exact Proc.complies_throw
  | ok matched => exact fun _ => trivial

/-- An account has a holder when its kind is one that names are matched for. -/
theorem addAccount_complies {dto : AddDisbursementAccountDto} :
    (addAccount userId dto).Complies (paying.contract tid) := by
  refine (onWorld_complies (leaves_sound query_leaves)).bind fun existingCount => ?_
  split
  · exact Proc.complies_throw
  refine (onWorld_complies (leaves_sound query_leaves)).bind fun duplicate => ?_
  split
  · exact Proc.complies_throw
  have creates (matched : Option (String × ℚ)) (isFirst : Bool)
      (named : matched.isSome = true ↔ dto.kind ≠ .cryptoAddress) :
      ((onWorld (createAccount userId dto matched isFirst)).bind fun created =>
        (.pure {
          id := created.1
          accountHolderName := created.2.accountHolderName
          nameMatchScore := created.2.nameMatchScore
          status := created.2.status
          isDefault := created.2.isDefault } : AccountAction AddedAccount)).Complies
        (paying.contract tid) :=
    (onWorld_complies (createAccount_sound named)).bind fun _ _ => trivial
  unfold holder
  by_cases named : nameMatchedKinds.contains dto.kind = true
  · simp only [named, if_true]
    have holds (b : Backend) :
        ((matchName userId dto.kind).bind fun matched => .pure (some matched) :
          AccountAction (Option (String × ℚ))).Meets (paying.contract tid)
          (fun matched _ => matched.isSome = true) (fun _ _ => True) b :=
      (matchName_complies b).seq fun _ _ _ => rfl
    refine fun b => (holds b).seq fun matched b' some => ?_
    refine creates matched _ ?_ b'
    cases kind : dto.kind <;> simp_all [nameMatchedKinds]
  · simp only [named]
    refine creates none _ ?_
    cases kind : dto.kind <;> simp_all [nameMatchedKinds]

theorem setDefault_complies : (setDefault userId accountId).Complies (paying.contract tid) := by
  refine (onWorld_complies (leaves_sound query_leaves)).bind fun found => ?_
  cases found with
  | none => exact Proc.complies_throw
  | some account =>
    refine onKyc_complies.bind fun user => ?_
    split
    · exact Proc.complies_throw
    · exact (onWorld_complies writeDefault_sound).bind fun _ _ => trivial

theorem deleteAccount_complies : (deleteAccount userId accountId).Complies (paying.contract tid) := by
  refine (onWorld_complies (leaves_sound query_leaves)).bind fun found => ?_
  cases found with
  | none => exact Proc.complies_throw
  | some account => exact (onWorld_complies writeDeletion_sound).bind fun _ _ => trivial

theorem procedure_complies {operation : Operation} :
    (procedure tid operation).Complies (paying.contract tid) := by
  cases operation with
  | addAccount userId dto => exact addAccount_complies.bind fun _ _ => trivial
  | setDefault userId accountId => exact setDefault_complies.bind fun _ _ => trivial
  | deleteAccount userId accountId => exact deleteAccount_complies.bind fun _ _ => trivial
  | kyc operation => exact onKyc_complies.bind fun _ _ => trivial
  | checkoutLoan userId dto =>
    exact onKyc_complies.bind fun user => (onWorld_complies checkoutLoan_sound).bind fun _ _ => trivial

end Backends

/-- From tables without accounts and loans, every loan can be paid out, in every run in which
borrowers who are not verified name no address of theirs on a chain. -/
theorem loans_payable {start : Backend} (accounts : start.world.disbursementAccounts = [])
    (loans : start.world.loans = []) {trace : List (Nat × Event Backend BackendAnswer BackendAccess)}
    {c : Config Backend BackendAnswer BackendAccess AccountError Unit}
    (run : Runs procedure start trace c)
    (choices : ∀ e ∈ trace, payableRequest e.2.label e.2.before = true) :
    ∀ loan ∈ c.shared.world.loans, Payable loan c.shared.world := by
  have sound : Sound start.world := ⟨by simp [accounts], by simp [loans]⟩
  have held : paying.Holds (fun _ _ _ => True) (fun _ _ _ => True) trace c :=
    run.holds paying_sound (fun _ _ _ _ _ _ => trivial) (fun _ _ _ _ _ _ => trivial) sound
      (fun _ => trivial) (fun _ _ b _ _ => procedure_complies b) choices
  intro loan member
  obtain ⟨loanId, found⟩ := List.mem_iff_getElem?.mp member
  exact Sound.payable held.inv found

def signedUp : Backend where
  world := {}
  kyc := KycService.newUser

def served : BackendAnswer where
  world := { rate := some (6 / 10), btcUsdRate := some 60000, text := "hash", message := some "OBI ADA" }
  kyc := KycService.resolvesAda

def bankDto : AddDisbursementAccountDto where
  kind := .bank
  providerName := "Bank"
  providerCode := "100001"
  accountUnique := "0123456789"

def cryptoDto : AddDisbursementAccountDto where
  kind := .cryptoAddress
  providerName := "USDT"
  providerCode := "USDT"
  accountUnique := "TX7n"

def verifiedLoan : List (Choice Operation BackendAnswer) :=
  .start (.kyc (.submitTier1 0 KycService.ada)) :: List.replicate 4 (.run 0 served) ++
    .start (.addAccount 0 bankDto) :: List.replicate 5 (.run 1 served) ++
    .start (.checkoutLoan 0 { principalNgn := 100000 }) :: List.replicate 9 (.run 2 served)

theorem loans_payable_sample : ∃ trace c, Runs procedure signedUp trace c ∧
    ∃ loan ∈ c.shared.world.loans, Payable loan c.shared.world := by
  obtain ⟨trace, c, run, checked⟩ := exists_run procedure signedUp verifiedLoan
    (fun trace c => trace.all (fun e => payableRequest e.2.label e.2.before) &&
      c.shared.world.loans.any fun loan => decide (loan.principalNgn = 100000)) (by decide +kernel)
  simp only [Bool.and_eq_true, List.all_eq_true, List.any_eq_true] at checked
  obtain ⟨choices, loan, member, _⟩ := checked
  exact ⟨trace, c, run, loan, member, loans_payable rfl rfl run choices loan member⟩

def cryptoLoan : List (Choice Operation BackendAnswer) :=
  .start (.addAccount 0 cryptoDto) :: List.replicate 3 (.run 0 served) ++
    .start (.checkoutLoan 0 { principalNgn := 100000, disbursementAccountId := some 0 }) ::
      List.replicate 9 (.run 1 served)

theorem loan_unpayable : ∃ trace c, Runs procedure signedUp trace c ∧
    ∃ loan ∈ c.shared.world.loans, ¬ Payable loan c.shared.world := by
  obtain ⟨trace, c, run, checked⟩ := exists_run procedure signedUp cryptoLoan
    (fun _ c => c.shared.world.loans.any fun loan => decide (¬ Payable loan c.shared.world))
    (by decide +kernel)
  simp only [List.any_eq_true, decide_eq_true_eq] at checked
  exact ⟨trace, c, run, checked⟩

end Bitmonie.DisbursementAccountsService
