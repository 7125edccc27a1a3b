import Bitmonie.PayableLoans

/-! The accounts of a customer from call to call: how many there are of a kind, which of them
is the default, and what a call leaves alone. -/
namespace Bitmonie.DisbursementAccountsService
open LoansService (owned CheckoutLoanDto checkoutLoan createLoan readAccount writeLoan_ok
  checkoutLoan_meets_chosen)
open KycService (KycStore KycReply KycAccess KycError KycAction)

abbrev Accounts := List DisbursementAccount

section Counts
variable {α : Type} {l : List α} {id : Nat} {a : α}

theorem countP_set (p : α → Bool) (found : l[id]? = some a) (b : α) :
    (l.set id b).countP p + (if p a then 1 else 0) = l.countP p + if p b then 1 else 0 := by
  induction l generalizing id with
  | nil => cases found
  | cons c rest ih =>
    cases id with
    | zero =>
      obtain rfl := Option.some.inj found
      rw [List.set_cons_zero, List.countP_cons, List.countP_cons]
      omega
    | succ id =>
      have later := ih found
      rw [List.set_cons_succ, List.countP_cons, List.countP_cons]
      omega

theorem countP_pos_of_found {p : α → Bool} (found : l[id]? = some a) (holds : p a = true) :
    0 < l.countP p :=
  List.countP_pos_iff.mpr ⟨a, List.mem_of_getElem? found, holds⟩

end Counts

def isDefaultOf (userId : Nat) (kind : DisbursementAccountKind) (account : DisbursementAccount) : Bool :=
  isKind userId kind account && account.isDefault

/-- The accounts that a user has of a kind. -/
structure KindShaped (userId : Nat) (kind : DisbursementAccountKind) (accounts : Accounts) : Prop where
  few : accounts.countP (isKind userId kind) ≤ maxDisbursementAccountsPerKind
  distinct : ∀ (id other : Nat) (account account' : DisbursementAccount),
    accounts[id]? = some account → accounts[other]? = some account' →
      isKind userId kind account = true → isKind userId kind account' = true →
        account.providerCode = account'.providerCode →
          account.accountUnique = account'.accountUnique → id = other
  /-- One if there are any, none otherwise. -/
  defaults : accounts.countP (isDefaultOf userId kind) =
    if accounts.countP (isKind userId kind) = 0 then 0 else 1

def Shaped (userId : Nat) (accounts : Accounts) : Prop :=
  ∀ kind, KindShaped userId kind accounts

def SameRows (kind : DisbursementAccountKind) (s t : Accounts) : Prop :=
  ∀ (id : Nat) (row : DisbursementAccount), row.kind = kind → (t[id]? = some row ↔ s[id]? = some row)

theorem defaults_le (userId : Nat) (kind : DisbursementAccountKind) (accounts : Accounts) :
    accounts.countP (isDefaultOf userId kind) ≤ accounts.countP (isKind userId kind) := by
  apply List.countP_mono_left
  intro account _ holds
  exact (Bool.and_eq_true_iff.mp holds).1

theorem isKind_iff {userId : Nat} {kind : DisbursementAccountKind} {account : DisbursementAccount} :
    isKind userId kind account = true ↔
      account.userId = userId ∧ account.deleted = false ∧ account.kind = kind := by
  simp [isKind, owned, and_assoc]

/-- The writes of a call, by what it found before. -/
inductive Wrote (s : Accounts) : Operation → Accounts → Prop
  | added (userId : Nat) (dto : AddDisbursementAccountDto) (matched : Option (String × ℚ)) (now : Time) :
      s.countP (isKind userId dto.kind) < maxDisbursementAccountsPerKind →
      (∀ account ∈ s, isKind userId dto.kind account = true →
        ¬ (account.providerCode = dto.providerCode ∧ account.accountUnique = dto.accountUnique)) →
      Wrote s (.addAccount userId dto)
        (s ++ [accountRow userId dto matched (s.countP (isKind userId dto.kind) = 0) now])
  | defaulted (userId accountId : Nat) : s[accountId]? = some account → owned userId account = true →
      makeDefault accountId (clearDefault userId account.kind s) = .ok t →
      Wrote s (.setDefault userId accountId) t
  | deleted (userId accountId : Nat) : s[accountId]? = some account → owned userId account = true →
      promoteNext userId account (s.set accountId { account with deleted := true }) = .ok t →
      Wrote s (.deleteAccount userId accountId) t

section Kept
variable {userId accountId : Nat} {kind : DisbursementAccountKind} {s t : Accounts}
  {account row : DisbursementAccount}

def Older (userId : Nat) (kind : DisbursementAccountKind) (s t : Accounts) : Prop :=
  ∀ (id : Nat) (row : DisbursementAccount), t[id]? = some row → isKind userId kind row = true →
    ∃ old, s[id]? = some old ∧ isKind userId kind old = true ∧
      old.providerCode = row.providerCode ∧ old.accountUnique = row.accountUnique

theorem Older.trans {r : Accounts} (first : Older userId kind r s) (second : Older userId kind s t) :
    Older userId kind r t := by
  intro id row found holds
  obtain ⟨old, there, was, code, unique⟩ := second id row found holds
  obtain ⟨older, there', was', code', unique'⟩ := first id old there was
  exact ⟨older, there', was', code'.trans code, unique'.trans unique⟩

theorem Older.distinct (older : Older userId kind s t) (shaped : KindShaped userId kind s)
    (id other : Nat) (account account' : DisbursementAccount) (found : t[id]? = some account)
    (found' : t[other]? = some account') (holds : isKind userId kind account = true)
    (holds' : isKind userId kind account' = true)
    (code : account.providerCode = account'.providerCode)
    (unique : account.accountUnique = account'.accountUnique) : id = other := by
  obtain ⟨old, there, was, codeₒ, uniqueₒ⟩ := older id account found holds
  obtain ⟨old', there', was', codeₒ', uniqueₒ'⟩ := older other account' found' holds'
  exact shaped.distinct id other old old' there there' was was'
    (codeₒ.trans (code.trans codeₒ'.symm)) (uniqueₒ.trans (unique.trans uniqueₒ'.symm))

theorem older_set (found : s[accountId]? = some account)
    (kept : isKind userId kind row = true → isKind userId kind account = true)
    (code : account.providerCode = row.providerCode)
    (unique : account.accountUnique = row.accountUnique) :
    Older userId kind s (s.set accountId row) := by
  intro id other there holds
  rcases getElem?_set_cases there with ⟨rfl, rfl⟩ | ⟨_, old⟩
  · exact ⟨account, found, kept holds, code, unique⟩
  · exact ⟨other, old, holds, rfl, rfl⟩

theorem KindShaped.append
    (room : isKind userId kind row = true → s.countP (isKind userId kind) < maxDisbursementAccountsPerKind)
    (new : isKind userId kind row = true → ∀ account ∈ s, isKind userId kind account = true →
      ¬ (account.providerCode = row.providerCode ∧ account.accountUnique = row.accountUnique))
    (first : isKind userId kind row = true →
      row.isDefault = decide (s.countP (isKind userId kind) = 0))
    (shaped : KindShaped userId kind s) : KindShaped userId kind (s ++ [row]) := by
  have count : (s ++ [row]).countP (isKind userId kind) =
      s.countP (isKind userId kind) + if isKind userId kind row = true then 1 else 0 := by
    rw [List.countP_append, List.countP_singleton]
  have defaults : (s ++ [row]).countP (isDefaultOf userId kind) =
      s.countP (isDefaultOf userId kind) +
        if (isKind userId kind row && row.isDefault) = true then 1 else 0 := by
    rw [List.countP_append, List.countP_singleton]
    rfl
  have one := shaped.defaults
  refine ⟨?_, fun id other account account' found found' holds holds' code unique => ?_, ?_⟩
  · have few := shaped.few
    rw [count]
    by_cases mine : isKind userId kind row = true
    · have less := room mine
      simp only [mine, if_true]
      omega
    · simpa [mine] using few
  · rcases row_of_concat found with old | ⟨rfl, rfl⟩
    · rcases row_of_concat found' with old' | ⟨rfl, rfl⟩
      · exact shaped.distinct id other account account' old old' holds holds' code unique
      · exact absurd ⟨code, unique⟩ (new holds' account (List.mem_of_getElem? old) holds)
    · rcases row_of_concat found' with old' | ⟨rfl, rfl⟩
      · exact absurd ⟨code.symm, unique.symm⟩ (new holds account' (List.mem_of_getElem? old') holds')
      · rfl
  · rw [count, defaults]
    by_cases mine : isKind userId kind row = true
    · by_cases none : s.countP (isKind userId kind) = 0 <;> simp_all
    · simpa [mine] using one

theorem not_isKind_of_apart {owner : Nat} {other : DisbursementAccountKind}
    (apart : ¬ (owner = userId ∧ other = kind)) (own : isKind owner other account = true) :
    isKind userId kind account = false := by
  by_contra holds
  obtain ⟨rfl, -, rfl⟩ := isKind_iff.mp (by simpa using holds)
  obtain ⟨same, -, same'⟩ := isKind_iff.mp own
  exact apart ⟨same.symm, same'.symm⟩

theorem clearDefault_count (userId owner : Nat) (kind cleared : DisbursementAccountKind) (s : Accounts) :
    (clearDefault owner cleared s).countP (isKind userId kind) = s.countP (isKind userId kind) := by
  rw [clearDefault, List.countP_map]
  rfl

theorem clearDefault_none (userId : Nat) (kind : DisbursementAccountKind) (s : Accounts) :
    (clearDefault userId kind s).countP (isDefaultOf userId kind) = 0 := by
  rw [clearDefault, List.countP_map, List.countP_eq_zero]
  intro account _
  simp only [Function.comp_def, isDefaultOf, isKind, owned]
  cases account.isDefault <;> simp

theorem clearDefault_others {userId owner : Nat} {kind cleared : DisbursementAccountKind}
    (apart : ¬ (owner = userId ∧ cleared = kind)) (s : Accounts) :
    (clearDefault owner cleared s).countP (isDefaultOf userId kind) =
      s.countP (isDefaultOf userId kind) := by
  rw [clearDefault, List.countP_map]
  apply List.countP_congr
  intro account _
  have kinds : isKind userId kind account = true → isKind owner cleared account = false := by
    intro mine
    by_contra theirs
    obtain ⟨rfl, -, rfl⟩ := isKind_iff.mp mine
    obtain ⟨same, -, same'⟩ := isKind_iff.mp (by simpa using theirs)
    exact apart ⟨same.symm, same'.symm⟩
  simp only [Function.comp_def, isDefaultOf]
  change (isKind userId kind account && _) = true ↔ _
  by_cases mine : isKind userId kind account = true
  · simp [mine, kinds mine]
  · simp [mine]

theorem clearDefault_found {owner : Nat} {cleared : DisbursementAccountKind}
    (found : (clearDefault owner cleared s)[accountId]? = some row) :
    ∃ old, s[accountId]? = some old ∧
      row = { old with isDefault := old.isDefault && !isKind owner cleared old } := by
  rw [clearDefault, List.getElem?_map] at found
  obtain ⟨old, there, rfl⟩ := Option.map_eq_some_iff.mp found
  exact ⟨old, there, rfl⟩

theorem older_clearDefault (owner : Nat) (cleared : DisbursementAccountKind) :
    Older userId kind s (clearDefault owner cleared s) := by
  intro id row found holds
  obtain ⟨old, there, rfl⟩ := clearDefault_found found
  exact ⟨old, there, holds, rfl, rfl⟩

theorem KindShaped.defaulted {owner : Nat} {cleared : DisbursementAccountKind}
    (found : (clearDefault owner cleared s)[accountId]? = some row)
    (own : isKind owner cleared row = true) (shaped : KindShaped userId kind s) :
    KindShaped userId kind
      ((clearDefault owner cleared s).set accountId { row with isDefault := true }) := by
  have older := (older_clearDefault owner cleared).trans (older_set found (fun holds => holds)
    (@rfl _ row.providerCode) (@rfl _ row.accountUnique)
      : Older userId kind _ ((clearDefault owner cleared s).set accountId { row with isDefault := true }))
  have count := countP_set (isKind userId kind) found { row with isDefault := true }
  have defaults := countP_set (isDefaultOf userId kind) found { row with isDefault := true }
  have same : isKind userId kind { row with isDefault := true } = isKind userId kind row := rfl
  have few := shaped.few
  have one := shaped.defaults
  rw [clearDefault_count, same] at count
  refine ⟨by omega, older.distinct shaped, ?_⟩
  have counted : ((clearDefault owner cleared s).set accountId
      { row with isDefault := true }).countP (isKind userId kind) = s.countP (isKind userId kind) := by
    omega
  rw [counted]
  by_cases mine : owner = userId ∧ cleared = kind
  · obtain ⟨rfl, rfl⟩ := mine
    have before : row.isDefault = false := by
      obtain ⟨old, there, rfl⟩ := clearDefault_found found
      have was : isKind owner cleared old = true := own
      simp [was]
    have some : s.countP (isKind owner cleared) ≠ 0 := by
      obtain ⟨old, there, rfl⟩ := clearDefault_found found
      have pos := countP_pos_of_found there (p := isKind owner cleared) own
      omega
    rw [clearDefault_none] at defaults
    simp only [isDefaultOf, same, own, before, Bool.and_true, Bool.and_false, if_true,
      Bool.false_eq_true, if_false] at defaults
    simp only [some, if_false]
    omega
  · have theirs := not_isKind_of_apart mine own
    rw [clearDefault_others mine] at defaults
    simp only [isDefaultOf, same, theirs, Bool.false_and, Bool.false_eq_true, if_false] at defaults
    rw [← one]
    exact defaults

/-- The row that is deleted takes its place in the counts with it. -/
theorem deleted_counts (userId : Nat) (kind : DisbursementAccountKind)
    (found : s[accountId]? = some account) :
    (s.set accountId { account with deleted := true }).countP (isKind userId kind) +
        (if isKind userId kind account = true then 1 else 0) = s.countP (isKind userId kind) ∧
      (s.set accountId { account with deleted := true }).countP (isDefaultOf userId kind) +
        (if isDefaultOf userId kind account = true then 1 else 0) =
          s.countP (isDefaultOf userId kind) := by
  have gone : isKind userId kind { account with deleted := true } = false := by simp [isKind, owned]
  have count := countP_set (isKind userId kind) found { account with deleted := true }
  have defaults := countP_set (isDefaultOf userId kind) found { account with deleted := true }
  simp only [isDefaultOf, gone, Bool.false_and, Bool.false_eq_true, if_false, Nat.add_zero] at count defaults
  exact ⟨count, defaults⟩

theorem older_deleted (found : s[accountId]? = some account) :
    Older userId kind s (s.set accountId { account with deleted := true }) :=
  older_set found (fun holds => by simp [isKind, owned] at holds) rfl rfl

/-- A row is deleted, and none takes its place. -/
theorem KindShaped.removed {owner : Nat} (found : s[accountId]? = some account)
    (own : owned owner account = true)
    (alone : account.isDefault = true →
      (s.set accountId { account with deleted := true }).countP (isKind owner account.kind) = 0)
    (shaped : KindShaped userId kind s) :
    KindShaped userId kind (s.set accountId { account with deleted := true }) := by
  have mineₐ : isKind owner account.kind account = true := by simp [isKind, own]
  obtain ⟨count, defaults⟩ := deleted_counts userId kind found
  have fewer := defaults_le userId kind (s.set accountId { account with deleted := true })
  have one := shaped.defaults
  have few := shaped.few
  refine ⟨by omega, (older_deleted found).distinct shaped, ?_⟩
  by_cases mine : owner = userId ∧ account.kind = kind
  · obtain ⟨rfl, rfl⟩ := mine
    by_cases default : account.isDefault = true
    · have none := alone default
      simp only [none, if_true]
      omega
    · have other : isDefaultOf owner account.kind account = false := by simp [isDefaultOf, default]
      have some := countP_pos_of_found found mineₐ
      simp only [other, Bool.false_eq_true, if_false, Nat.add_zero] at defaults
      rw [if_neg (by omega)] at one
      rw [if_neg (by omega), defaults, one]
  · have theirs := not_isKind_of_apart mine mineₐ
    have other : isDefaultOf userId kind account = false := by simp [isDefaultOf, theirs]
    simp only [theirs, other, Bool.false_eq_true, if_false, Nat.add_zero] at count defaults
    rw [count, defaults, one]

/-- A default is deleted, and another row of its kind takes its place. -/
theorem KindShaped.promoted {owner id : Nat} {next : DisbursementAccount}
    (found : s[accountId]? = some account) (own : owned owner account = true)
    (default : account.isDefault = true)
    (there : (s.set accountId { account with deleted := true })[id]? = some next)
    (holds : isKind owner account.kind next = true) (shaped : KindShaped userId kind s) :
    KindShaped userId kind ((s.set accountId { account with deleted := true }).set id
      { next with isDefault := true }) := by
  have mineₐ : isKind owner account.kind account = true := by simp [isKind, own]
  obtain ⟨count, defaults⟩ := deleted_counts userId kind found
  have one := shaped.defaults
  have few := shaped.few
  have count' := countP_set (isKind userId kind) there { next with isDefault := true }
  have defaults' := countP_set (isDefaultOf userId kind) there { next with isDefault := true }
  have same : isKind userId kind { next with isDefault := true } = isKind userId kind next := rfl
  have older := (older_deleted found).trans (older_set there (fun holds => holds)
    (@rfl _ next.providerCode) (@rfl _ next.accountUnique) : Older userId kind _
      ((s.set accountId { account with deleted := true }).set id { next with isDefault := true }))
  rw [same] at count'
  refine ⟨by omega, older.distinct shaped, ?_⟩
  by_cases mine : owner = userId ∧ account.kind = kind
  · obtain ⟨rfl, rfl⟩ := mine
    have some := countP_pos_of_found found mineₐ
    have left := countP_pos_of_found there holds
    have was : isDefaultOf owner account.kind account = true := by simp [isDefaultOf, mineₐ, default]
    have now : isDefaultOf owner account.kind { next with isDefault := true } = true := by
      simp [isDefaultOf, same, holds]
    rw [if_neg (by omega)] at one
    simp only [was, if_true] at defaults
    -- No default was left beside the one that was deleted.
    have before : isDefaultOf owner account.kind next = false := by
      by_contra two
      have pos := countP_pos_of_found there (by simpa using two)
      omega
    simp only [before, now, Bool.false_eq_true, if_false, if_true] at defaults'
    rw [if_neg (by omega)]
    omega
  · have theirs := not_isKind_of_apart mine mineₐ
    have theirs' := not_isKind_of_apart mine holds
    have other : isDefaultOf userId kind account = false := by simp [isDefaultOf, theirs]
    have other' : isDefaultOf userId kind next = false := by simp [isDefaultOf, theirs']
    have after : isDefaultOf userId kind { next with isDefault := true } = false := by
      simp [isDefaultOf, same, theirs']
    simp only [theirs, theirs', other, other', after, Bool.false_eq_true, if_false,
      Nat.add_zero] at count defaults count' defaults'
    rw [count', count, defaults', defaults, one]

theorem KindShaped.deleted {owner : Nat} (found : s[accountId]? = some account)
    (own : owned owner account = true)
    (done : promoteNext owner account (s.set accountId { account with deleted := true }) = .ok t)
    (shaped : KindShaped userId kind s) : KindShaped userId kind t := by
  rcases promoteNext_ok done with ⟨rfl, alone⟩ | ⟨default, id, next, there, holds, rfl⟩
  · exact shaped.removed found own alone
  · exact shaped.promoted found own default there holds

end Kept

section Wrote
variable {userId : Nat} {kind : DisbursementAccountKind} {r s t : Accounts} {operation : Operation}

theorem Wrote.shaped (wrote : Wrote s operation t) (shaped : Shaped userId s) : Shaped userId t := by
  intro kind
  cases wrote with
  | added owner dto matched now room new =>
    have mine (first : Bool) (holds : isKind userId kind (accountRow owner dto matched first now) = true) :
        owner = userId ∧ dto.kind = kind := by
      obtain ⟨same, -, same'⟩ := isKind_iff.mp holds
      exact ⟨same, same'⟩
    apply KindShaped.append _ _ _ (shaped kind)
    · intro holds
      obtain ⟨rfl, rfl⟩ := mine _ holds
      exact room
    · intro holds
      obtain ⟨rfl, rfl⟩ := mine _ holds
      exact new
    · intro holds
      obtain ⟨rfl, rfl⟩ := mine _ holds
      rfl
  | @defaulted account t owner accountId found own done =>
    obtain ⟨row, there, present, rfl⟩ := makeDefault_ok done
    obtain ⟨old, there', rfl⟩ := clearDefault_found there
    obtain rfl := Option.some.inj (found.symm.trans there')
    have holds : isKind owner account.kind { account with
        isDefault := account.isDefault && !isKind owner account.kind account } = true := by
      simp only [owned, isKind] at own ⊢
      simp [own]
    exact (shaped kind).defaulted there holds
  | deleted owner accountId found own done => exact (shaped kind).deleted found own done

theorem SameRows.trans (first : SameRows kind r s) (second : SameRows kind s t) : SameRows kind r t :=
  fun id row same => (second id row same).trans (first id row same)

theorem sameRows_set {accountId : Nat} {account row : DisbursementAccount}
    (found : s[accountId]? = some account) (before : account.kind ≠ kind) (after : row.kind ≠ kind) :
    SameRows kind s (s.set accountId row) := by
  intro id other same
  by_cases here : id = accountId
  · subst here
    rw [getElem?_set_of_eq found, found]
    constructor
    · rintro ⟨⟩
      exact absurd same after
    · rintro ⟨⟩
      exact absurd same before
  · rw [List.getElem?_set_ne (Ne.symm here)]

theorem sameRows_clearDefault {cleared : DisbursementAccountKind} (owner : Nat)
    (apart : cleared ≠ kind) : SameRows kind s (clearDefault owner cleared s) := by
  have stays (old : DisbursementAccount) (same : old.kind = kind) :
      { old with isDefault := old.isDefault && !isKind owner cleared old } = old := by
    have other : isKind owner cleared old = false := by
      by_contra holds
      obtain ⟨-, -, same'⟩ := isKind_iff.mp (by simpa using holds)
      exact apart (same'.symm.trans same)
    simp [other]
  intro id row same
  constructor
  · intro found
    obtain ⟨old, there, rfl⟩ := clearDefault_found found
    rw [stays old same, there]
  · intro found
    rw [clearDefault, List.getElem?_map, found, Option.map_some, stays row same]

def Concerns (accounts : Accounts) (kind : DisbursementAccountKind) : Operation → Prop
  | .addAccount _ dto => dto.kind = kind
  | .setDefault _ accountId | .deleteAccount _ accountId =>
    ∃ account, accounts[accountId]? = some account ∧ account.kind = kind
  | .kyc _ | .checkoutLoan _ _ => False

theorem Wrote.others (wrote : Wrote s operation t) (apart : ¬ Concerns s kind operation) :
    SameRows kind s t := by
  cases wrote with
  | added owner dto matched now room new =>
    intro id row same
    constructor
    · intro found
      rcases row_of_concat found with old | ⟨-, rfl⟩
      · exact old
      · exact absurd same apart
    · exact concat_of_row
  | @defaulted account t owner accountId found own done =>
    have other : account.kind ≠ kind := fun same => apart ⟨account, found, same⟩
    obtain ⟨row, there, present, rfl⟩ := makeDefault_ok done
    obtain ⟨old, there', rfl⟩ := clearDefault_found there
    obtain rfl := Option.some.inj (found.symm.trans there')
    exact (sameRows_clearDefault owner other).trans (sameRows_set there other other)
  | @deleted account t owner accountId found own done =>
    have other : account.kind ≠ kind := fun same => apart ⟨account, found, same⟩
    have removed : SameRows kind s (s.set accountId { account with deleted := true }) :=
      sameRows_set found other other
    rcases promoteNext_ok done with ⟨rfl, -⟩ | ⟨-, id, next, there, holds, rfl⟩
    · exact removed
    · have same : next.kind = account.kind := (isKind_iff.mp holds).2.2
      have other' : next.kind ≠ kind := same ▸ other
      exact removed.trans (sameRows_set there other' other')

end Wrote

/-- A call alone; `strict` excludes answers that get lost after a commit. -/
def bookedWorld (strict : Bool) : Contract World Answer Access where
  inv _ := True
  allowed _ i _ := strict = true → i.lost = false
  rely s t := t.disbursementAccounts = s.disbursementAccounts
  guar _ _ _ _ := True

def booked (strict : Bool) : Contract Backend BackendAnswer BackendAccess where
  inv _ := True
  allowed _ i _ := strict = true → i.world.lost = false
  rely s t := t.world.disbursementAccounts = s.world.disbursementAccounts
  guar _ _ _ _ := True

section Calls
variable {strict : Bool} {userId accountId : Nat} {s : Accounts} {w : World} {b : Backend}

/-- A statement that writes accounts, if it is not refused. -/
theorem commit_books {α : Type} {label : Access} {f : Answer → World → Except AppError (α × World)}
    {writes : Accounts → Prop} (here : w.disbursementAccounts = s)
    (wrote : ∀ i t a t', t.disbursementAccounts = s → f i t = .ok (a, t') →
      writes t'.disbursementAccounts) :
    (commit label (fun _ => true) f).Meets (bookedWorld strict)
      (fun _ t => writes t.disbursementAccounts)
      (fun _ t => t.disbursementAccounts = s ∨ strict = false ∧ writes t.disbursementAccounts) w := by
  refine commit_meets fun t moved _ _ i answered => ?_
  have hereₜ : t.disbursementAccounts = s := moved.trans here
  refine ⟨trivial, fun _ => .inl hereₜ, fun _ _ => .inl hereₜ, fun a t' _ done => ?_⟩
  have made := wrote i t a t' hereₜ done
  refine ⟨trivial, trivial, fun _ => made, fun lost => .inr ⟨?_, made⟩⟩
  cases strict with
  | false => rfl
  | true => simp [answered rfl] at lost

/-- What a query of the accounts finds. -/
theorem query_books {α : Type} {found : World → α} (here : w.disbursementAccounts = s)
    (reads : ∀ t, t.disbursementAccounts = s → found t = found w) :
    (query fun _ w => .ok (found w)).Meets (bookedWorld strict)
      (fun a t => t.disbursementAccounts = s ∧ a = found w)
      (fun _ t => t.disbursementAccounts = s) w := by
  refine query_meets fun t moved _ i _ => ?_
  have hereₜ : t.disbursementAccounts = s := moved.trans here
  refine ⟨trivial, hereₜ, fun _ _ => hereₜ, fun a read => ⟨hereₜ, ?_⟩⟩
  rw [← Except.ok.inj read, reads t hereₜ]

theorem onWorld_books {α : Type} {p : Action α} {post : α → World → Prop} {err : World → Prop}
    (meets : p.Meets (bookedWorld strict) post (fun _ => err) b.world) :
    (onWorld p).Meets (booked strict) (fun a t => post a t.world) (fun _ t => err t.world) b := by
  let kept (_ : Backend) : Prop := True
  have zoomed : (p.zoom worldPart).Meets (booked strict) (fun a t => post a (worldPart.get t) ∧ kept t)
      (fun e t => (∃ e', e = worldPart.error e' ∧ err (worldPart.get t)) ∧ kept t) b := by
    refine Proc.Meets.zoom_throws ?_ ?_ ?_ trivial meets
    · exact fun _ _ rely _ => ⟨rely, trivial⟩
    · exact fun _ _ _ _ _ answered => ⟨trivial, answered⟩
    · exact fun _ _ _ _ _ _ _ _ => ⟨trivial, trivial, trivial⟩
  refine zoomed.imp (fun _ _ ended => ended.1) ?_
  rintro e t ⟨⟨thrown, -, ended⟩, -⟩
  exact ended

/-- A procedure that does not write accounts. -/
theorem leaves_books {α : Type} {p : AccountAction α}
    (leaves : p.Leaves fun b => b.world.disbursementAccounts) (here : b.world.disbursementAccounts = s) :
    p.Meets (booked strict) (fun _ t => t.world.disbursementAccounts = s)
      (fun _ t => t.world.disbursementAccounts = s) b :=
  leaves.meets (fun _ _ moved here => moved.trans here) (fun _ _ _ _ _ _ => ⟨trivial, trivial⟩)
    (fun _ _ same here => same.trans here) here

theorem createLoan_leaves {user : LoansService.User} {dto : CheckoutLoanDto}
    {quote : CalculatorService.CalculatorResult} :
    (createLoan user dto accountId quote).Leaves World.disbursementAccounts := by
  have inserts : (commit (.createLoan user.id) (fun _ => true) fun i w =>
      LoansService.writeLoan user (LoansService.loanRow user dto accountId quote i.now) w).Leaves
        World.disbursementAccounts :=
    commit_leaves fun _ _ _ _ done => by
      obtain ⟨_, _, rfl⟩ := writeLoan_ok done
      rfl
  exact inserts.catching fun _ => trivial

theorem checkoutLoan_leaves {user : LoansService.User} {dto : CheckoutLoanDto} :
    (checkoutLoan user dto).Leaves World.disbursementAccounts := by
  refine (Proc.leaves_ofExcept _).bind fun _ => ?_
  refine query_leaves.bind fun pending => ?_
  split
  · trivial
  refine query_leaves.bind fun account => ?_
  split
  · trivial
  refine query_leaves.bind fun rates => (Proc.leaves_ofExcept _).bind fun quote => ?_
  refine createLoan_leaves.bind fun loanId => ?_
  have requests : (PaymentRequestsService.create ⟨user.id, .loan, loanId, quote.collateralAmountSat⟩).Leaves
      World.disbursementAccounts := createRequest_leaves.comp Prod.snd
  refine Proc.Leaves.bind (requests.catching fun _ => ?_) fun _ => ?_
  · trivial
  · exact query_leaves.bind fun _ => trivial

theorem onKyc_leaves {α : Type} {p : KycAction α} :
    (onKyc p).Leaves fun b => b.world.disbursementAccounts :=
  Proc.leaves_zoom fun _ _ => rfl

theorem holder_leaves {kind : DisbursementAccountKind} :
    (holder userId kind).Leaves fun b => b.world.disbursementAccounts := by
  unfold holder
  split
  · refine Proc.Leaves.bind ?_ fun _ => trivial
    unfold matchName
    refine onKyc_leaves.bind fun user => ?_
    split
    · trivial
    refine Proc.Leaves.bind ?_ fun canonical => ?_
    · unfold canonicalName
      split
      · trivial
      · exact onKyc_leaves.bind fun _ => trivial
    · have looksUp : (lookupAccountName kind).Leaves World.disbursementAccounts :=
        lookupAccountName_leaves
      have zoomed : (onWorld (lookupAccountName kind)).Leaves fun b =>
          (worldPart.get b).disbursementAccounts := looksUp.zoom
      exact zoomed.bind fun _ => Proc.leaves_ofExcept _
  · trivial

/-- How a call that throws leaves the accounts: as they were, unless a commit was not
answered. -/
def Refused (strict : Bool) (s : Accounts) (operation : Operation) (b : Backend) : Prop :=
  b.world.disbursementAccounts = s ∨
    strict = false ∧ Wrote s operation b.world.disbursementAccounts

theorem createAccount_books {dto : AddDisbursementAccountDto} {matched : Option (String × ℚ)}
    (here : w.disbursementAccounts = s)
    (room : s.countP (isKind userId dto.kind) < maxDisbursementAccountsPerKind)
    (new : ∀ account ∈ s, isKind userId dto.kind account = true →
      ¬ (account.providerCode = dto.providerCode ∧ account.accountUnique = dto.accountUnique)) :
    (createAccount userId dto matched (s.countP (isKind userId dto.kind) = 0)).Meets
      (bookedWorld strict)
      (fun _ t => Wrote s (.addAccount userId dto) t.disbursementAccounts)
      (fun _ t => t.disbursementAccounts = s ∨
        strict = false ∧ Wrote s (.addAccount userId dto) t.disbursementAccounts) w := by
  refine @commit_books strict s w _ _ _ (Wrote s (.addAccount userId dto)) here
    fun i x a x' same done => ?_
  obtain ⟨-, done⟩ := unless_ok.mp done
  obtain ⟨-, rfl⟩ := Prod.mk.inj (Except.ok.inj done)
  rw [same]
  exact .added userId dto matched i.now room new

theorem writeDefault_books {account : DisbursementAccount} (here : w.disbursementAccounts = s)
    (there : s[accountId]? = some account) (own : owned userId account = true) :
    (writeDefault userId accountId account.kind).Meets (bookedWorld strict)
      (fun _ t => Wrote s (.setDefault userId accountId) t.disbursementAccounts)
      (fun _ t => t.disbursementAccounts = s ∨
        strict = false ∧ Wrote s (.setDefault userId accountId) t.disbursementAccounts) w := by
  refine @commit_books strict s w _ _ _ (Wrote s (.setDefault userId accountId)) here
    fun i x a x' same done => ?_
  obtain ⟨accounts, made, -, rfl⟩ := map_pair_ok.mp done
  rw [same] at made
  exact .defaulted userId accountId there own made

theorem writeDeletion_books {account : DisbursementAccount} (here : w.disbursementAccounts = s)
    (there : s[accountId]? = some account) (own : owned userId account = true) :
    (writeDeletion userId accountId account).Meets (bookedWorld strict)
      (fun _ t => Wrote s (.deleteAccount userId accountId) t.disbursementAccounts)
      (fun _ t => t.disbursementAccounts = s ∨
        strict = false ∧ Wrote s (.deleteAccount userId accountId) t.disbursementAccounts) w := by
  refine @commit_books strict s w _ _ _ (Wrote s (.deleteAccount userId accountId)) here
    fun i x a x' same done => ?_
  obtain ⟨left, removed, done⟩ := bind_ok.mp done
  obtain ⟨row, found, _, rfl⟩ := removeAccount_ok removed
  obtain ⟨accounts, promoted, ended⟩ := bind_ok.mp done
  obtain ⟨-, rfl⟩ := Prod.mk.inj (Except.ok.inj ended)
  rw [same] at found promoted
  obtain rfl := Option.some.inj (there.symm.trans found)
  exact .deleted userId accountId there own promoted

theorem addAccount_books {dto : AddDisbursementAccountDto} (here : b.world.disbursementAccounts = s) :
    (addAccount userId dto).Meets (booked strict)
      (fun _ t => Wrote s (.addAccount userId dto) t.world.disbursementAccounts)
      (fun _ => Refused strict s (.addAccount userId dto)) b := by
  rw [addAccount, Proc.meets_bind]
  have counts := @query_books strict s b.world _
    (fun w => w.disbursementAccounts.countP (isKind userId dto.kind)) here fun t same => by
      rw [same, here]
  apply (onWorld_books counts).imp _ fun _ _ same => .inl same
  rintro existingCount t ⟨hereₜ, rfl⟩
  by_cases full : maxDisbursementAccountsPerKind ≤ b.world.disbursementAccounts.countP (isKind userId dto.kind)
  · rw [if_pos full]
    exact .inl hereₜ
  rw [if_neg full, Proc.meets_bind]
  have searches := @query_books strict s t.world _
    (fun w => w.disbursementAccounts.any fun account => isKind userId dto.kind account &&
      account.providerCode = dto.providerCode && account.accountUnique = dto.accountUnique)
    hereₜ fun u same => by rw [same, hereₜ]
  apply (onWorld_books searches).imp _ fun _ _ same => .inl same
  rintro duplicate u ⟨hereᵤ, found⟩
  cases duplicate with
  | true => exact .inl hereᵤ
  | false =>
    simp only [Bool.false_eq_true, if_false, Proc.meets_bind]
    apply (leaves_books holder_leaves hereᵤ).imp _ fun _ _ same => .inl same
    intro matched v hereᵥ
    rw [here] at full ⊢
    refine onWorld_books (createAccount_books hereᵥ (Nat.lt_of_not_le full) ?_)
    intro account member holds
    have none := (List.any_eq_false.mp found.symm) account (hereₜ ▸ member)
    simpa [holds] using none

theorem findAccount_books (here : w.disbursementAccounts = s) :
    (findAccount userId accountId).Meets (bookedWorld strict)
      (fun found t => t.disbursementAccounts = s ∧ found = (s[accountId]?).filter (owned userId))
      (fun _ t => t.disbursementAccounts = s) w := by
  have reads := @query_books strict s w _
    (fun w => (w.disbursementAccounts[accountId]?).filter (owned userId)) here fun t same => by
      rw [same, here]
  rw [here] at reads
  exact reads

theorem setDefault_books (here : b.world.disbursementAccounts = s) :
    (setDefault userId accountId).Meets (booked strict)
      (fun _ t => Wrote s (.setDefault userId accountId) t.world.disbursementAccounts)
      (fun _ => Refused strict s (.setDefault userId accountId)) b := by
  rw [setDefault, Proc.meets_bind]
  apply (onWorld_books (findAccount_books here)).imp _ fun _ _ same => .inl same
  rintro found t ⟨hereₜ, read⟩
  cases found with
  | none => exact .inl hereₜ
  | some account =>
    obtain ⟨there, own⟩ := Option.filter_eq_some_iff.mp read.symm
    simp only [Proc.meets_bind]
    apply (leaves_books onKyc_leaves hereₜ).imp _ fun _ _ same => .inl same
    intro user u hereᵤ
    by_cases unmatched : 1 ≤ user.kycTier ∧ account.accountHolderName = none
    · rw [if_pos unmatched]
      exact .inl hereᵤ
    rw [if_neg unmatched, Proc.meets_bind]
    exact onWorld_books (writeDefault_books hereᵤ there own)

theorem deleteAccount_books (here : b.world.disbursementAccounts = s) :
    (deleteAccount userId accountId).Meets (booked strict)
      (fun _ t => Wrote s (.deleteAccount userId accountId) t.world.disbursementAccounts)
      (fun _ => Refused strict s (.deleteAccount userId accountId)) b := by
  rw [deleteAccount, Proc.meets_bind]
  apply (onWorld_books (findAccount_books here)).imp _ fun _ _ same => .inl same
  rintro found t ⟨hereₜ, read⟩
  cases found with
  | none => exact .inl hereₜ
  | some account =>
    obtain ⟨there, own⟩ := Option.filter_eq_some_iff.mp read.symm
    simp only [Proc.meets_bind]
    exact onWorld_books (writeDeletion_books hereₜ there own)

/-- A call that returns leaves the accounts alone or makes the writes of its kind; so does one
that throws, and it leaves them alone where commits are answered. -/
theorem procedure_books {tid : Nat} {operation : Operation}
    (here : b.world.disbursementAccounts = s) :
    (procedure tid operation).Meets (booked strict)
      (fun _ t => t.world.disbursementAccounts = s ∨ Wrote s operation t.world.disbursementAccounts)
      (fun _ => Refused strict s operation) b := by
  cases operation with
  | addAccount userId dto =>
    rw [procedure, Proc.meets_bind]
    exact (addAccount_books here).imp (fun _ _ wrote => .inr wrote) fun _ _ refused => refused
  | setDefault userId accountId =>
    rw [procedure, Proc.meets_bind]
    exact (setDefault_books here).imp (fun _ _ wrote => .inr wrote) fun _ _ refused => refused
  | deleteAccount userId accountId =>
    rw [procedure, Proc.meets_bind]
    exact (deleteAccount_books here).imp (fun _ _ wrote => .inr wrote) fun _ _ refused => refused
  | kyc operation =>
    rw [procedure, Proc.meets_bind]
    exact (leaves_books onKyc_leaves here).imp (fun _ _ same => .inl same) fun _ _ same => .inl same
  | checkoutLoan userId dto =>
    have zoomed (user : LoansService.User) : (onWorld (checkoutLoan user dto)).Leaves fun b =>
        (worldPart.get b).disbursementAccounts := checkoutLoan_leaves.zoom
    have leaves : (requestLoan userId dto).Leaves fun b => b.world.disbursementAccounts :=
      onKyc_leaves.bind fun user => (zoomed _).bind fun _ => trivial
    exact (leaves_books leaves here).imp (fun _ _ same => .inl same) fun _ _ same => .inl same

end Calls

abbrev call (request : Nat × Operation) : AccountAction Unit := procedure request.1 request.2

/-- What a call that has ended did to the accounts. -/
theorem call_books {request : Nat × Operation} {answers : List BackendAnswer} {b : Backend}
    {f : Finished Backend BackendAnswer BackendAccess AccountError Unit}
    (ended : (call request).exec answers b = some f) :
    (f.state.world.disbursementAccounts = b.world.disbursementAccounts ∨
      Wrote b.world.disbursementAccounts request.2 f.state.world.disbursementAccounts) ∧
    ((∃ e, f.result = .error e) → (∀ event ∈ f.trace, event.answer.world.lost = false) →
      f.state.world.disbursementAccounts = b.world.disbursementAccounts) := by
  have loose := ((@procedure_books false _ b request.1 request.2 rfl).exec (fun _ => rfl) trivial ended
    fun _ _ strict => by cases strict).2.2
  constructor
  · cases result : f.result with
    | ok a => simpa [Finished.Ends, result] using loose
    | error e =>
      simp only [Finished.Ends, result, Refused] at loose
      exact loose.imp id And.right
  · rintro ⟨e, thrown⟩ answered
    have strict := ((@procedure_books true _ b request.1 request.2 rfl).exec (fun _ => rfl) trivial ended
      fun event member _ => answered event member).2.2
    simpa [Finished.Ends, thrown, Refused] using strict

/-- Of every kind a user has few accounts, told apart by their numbers, and one default if any,
after any calls of any users, one after the other; a call that throws leaves all accounts alone,
unless the answer to a commit was lost, and no call touches kinds that it is not about. -/
theorem account_book {start b : Backend} {trace : List (Event Backend BackendAnswer BackendAccess)}
    {userId : Nat} (shaped : Shaped userId start.world.disbursementAccounts)
    (run : SerialRuns call start trace b) :
    Shaped userId b.world.disbursementAccounts ∧
    ∀ (request : Nat × Operation) (answers : List BackendAnswer)
      (f : Finished Backend BackendAnswer BackendAccess AccountError Unit),
      (call request).exec answers b = some f →
      ((∃ e, f.result = .error e) → (∀ event ∈ f.trace, event.answer.world.lost = false) →
        f.state.world.disbursementAccounts = b.world.disbursementAccounts) ∧
      ∀ kind, ¬ Concerns b.world.disbursementAccounts kind request.2 →
        SameRows kind b.world.disbursementAccounts f.state.world.disbursementAccounts := by
  constructor
  · induction run with
    | nil => exact shaped
    | op request run ended ih =>
      rcases (call_books ended).1 with same | wrote
      · rw [same]
        exact ih
      · exact wrote.shaped ih
  · intro request answers f ended
    obtain ⟨writes, throws⟩ := call_books ended
    refine ⟨throws, fun kind apart => ?_⟩
    rcases writes with same | wrote
    · rw [same]
      exact fun _ _ _ => Iff.rfl
    · exact wrote.others apart

theorem shaped_none (userId : Nat) : Shaped userId [] := fun kind =>
  ⟨by simp, fun _ _ _ _ found => by simp at found, by simp⟩

/-- Two addresses on a chain, of which the first is deleted. -/
def secondAddress : List ((Nat × Operation) × List BackendAnswer) :=
  [((0, .kyc (.submitTier1 0 KycService.ada)), List.replicate 4 served),
    ((0, .addAccount 0 bankDto), List.replicate 5 served),
    ((0, .addAccount 0 cryptoDto), List.replicate 3 served),
    ((0, .addAccount 0 { cryptoDto with accountUnique := "TQ3m" }), List.replicate 3 served),
    ((0, .deleteAccount 0 1), List.replicate 2 served)]

theorem account_book_sample : ∃ trace b, SerialRuns call signedUp trace b ∧
    b.world.disbursementAccounts.map (fun row => (row.deleted, row.isDefault)) =
      [(false, true), (true, true), (false, true)] ∧
    Shaped 0 b.world.disbursementAccounts := by
  obtain ⟨trace, b, run, checked⟩ := exists_serialRun call signedUp secondAddress
    (fun _ b => decide (b.world.disbursementAccounts.map (fun row => (row.deleted, row.isDefault)) =
      [(false, true), (true, true), (false, true)]))
    (by decide +kernel)
  exact ⟨trace, b, run, of_decide_eq_true checked, (account_book (shaped_none 0) run).1⟩

end Bitmonie.DisbursementAccountsService
