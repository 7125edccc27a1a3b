import Mathlib.Data.List.Nodup
import Bitmonie.KycTier
import Bitmonie.RepaymentAccounts

/-! Whose account a number is, from the day it is opened, with any number of verifications,
revocations, provisionings and replacements under way. -/
namespace Bitmonie.UserRepaymentAccountsService
open KycService

/-- What an account can be opened on. -/
structure Backs (userId : Nat) (verification : KycVerification) : Prop where
  owner : verification.userId = userId
  tier : verification.tier = tier1
  verified : verification.status = .verified
  idNumber : (present verification.idNumber).isSome
  idType : verification.idType = some .bvn ∨ verification.idType = some .nin

structure Kept (s : Desk) : Prop where
  /-- A user has one active account at most. -/
  one : ∀ (i j : Nat) (row other : UserRepaymentAccount), s.accounts[i]? = some row →
    s.accounts[j]? = some other → row.isActive = true → other.isActive = true → row.userId = other.userId → i = j
  numbers : (s.accounts.map (·.virtualAccountNo)).Nodup
  retired : ∀ row ∈ s.accounts, row.isActive = false ↔ row.deactivatedAt.isSome = true
  audits : s.provisionAudits = s.accounts.filterMap (·.audit)
  audited : ∀ row ∈ s.accounts, ∀ audit, row.audit = some audit → audit.targetId = row.userId
  opened : ∀ row ∈ s.accounts, Backs row.userId row.openedOn
  verified : ∀ row ∈ s.kyc.verifications, row.status = .verified

def Ages (row row' : UserRepaymentAccount) : Prop :=
  row' = row ∨ row.isActive = true ∧ ∃ now, row' = deactivate now row

def HasActive (userId : Nat) (s : Desk) : Prop :=
  ∃ row ∈ s.accounts, row.userId = userId ∧ row.isActive = true

/-- No row is lost or changes hands, and nobody is left without an account. -/
structure Moves (s t : Desk) : Prop where
  lasts : ∀ (id : Nat) (row : UserRepaymentAccount), s.accounts[id]? = some row →
    ∃ row', t.accounts[id]? = some row' ∧ Ages row row'
  served : ∀ userId, HasActive userId s → HasActive userId t

def keeping : Discipline Desk (Reply DeskReply) DeskAccess where
  inv := Kept
  allowed _ _ _ := True
  fresh _ _ := True
  rely _ := Moves
  guar _ _ _ := Moves

section Steps
variable {s t : Desk} {tid userId : Nat} {row row' other : UserRepaymentAccount} {now : Int}
  {found : List Nat}

theorem Ages.trans (first : Ages row row') (second : Ages row' other) : Ages row other := by
  rcases first with rfl | ⟨active, time, rfl⟩
  · exact second
  rcases second with rfl | ⟨impossible, -⟩
  · exact .inr ⟨active, time, rfl⟩
  · cases impossible

/-- A field that retiring a row does not change. -/
theorem Ages.field {β : Type} {g : UserRepaymentAccount → β} (ages : Ages row row')
    (same : ∀ row now, g (deactivate now row) = g row) : g row' = g row := by
  rcases ages with rfl | ⟨-, time, rfl⟩
  · rfl
  · exact same row time

theorem moves_of_accounts (same : t.accounts = s.accounts) : Moves s t where
  lasts _ row found := ⟨row, same ▸ found, .inl rfl⟩
  served _ active := by simpa only [HasActive, same] using active

theorem Moves.trans {r : Desk} (first : Moves r s) (second : Moves s t) : Moves r t where
  lasts id row found := by
    obtain ⟨row', found', ages⟩ := first.lasts id row found
    obtain ⟨row'', found'', ages'⟩ := second.lasts id row' found'
    exact ⟨row'', found'', ages.trans ages'⟩
  served userId active := second.served userId (first.served userId active)

theorem keeping_sound : keeping.Sound where
  refl _ _ := moves_of_accounts rfl
  trans _ _ _ _ := Moves.trans
  compatible _ _ _ _ _ _ _ _ moves := moves
  fresh _ _ _ _ _ := trivial

theorem insertAccount_ok (done : insertAccount row s = (.ok row', t)) :
    row' = row ∧ (∀ other ∈ s.accounts, other.virtualAccountNo ≠ row.virtualAccountNo ∧
      (other.userId = row.userId → other.isActive = false)) ∧
    t = { s with
      accounts := s.accounts ++ [row]
      provisionAudits := s.provisionAudits ++ row.audit.toList } := by
  unfold insertAccount at done
  split at done
  · cases done
  split at done
  · cases done
  rename_i new
  obtain ⟨ended, rfl⟩ := Prod.mk.inj done
  obtain rfl := Except.ok.inj ended
  refine ⟨rfl, fun other member => ?_, rfl⟩
  have := fun clash => new (List.any_eq_true.mpr ⟨other, member, clash⟩)
  simpa using this

theorem insertAccount_error {e : AccountError} (done : insertAccount row s = (.error e, t)) : t = s := by
  unfold insertAccount at done
  split at done
  · exact (Prod.mk.inj done).2.symm
  split at done
  · exact (Prod.mk.inj done).2.symm
  · cases done

/-- What a new row brings along. -/
structure Opens (row : UserRepaymentAccount) : Prop where
  active : row.isActive = true
  current : row.deactivatedAt = none
  backs : Backs row.userId row.openedOn
  audited : ∀ audit, row.audit = some audit → audit.targetId = row.userId

theorem Kept.insertAccount (kept : Kept s) (opens : Opens row)
    (done : insertAccount row s = (.ok row', t)) : Kept t ∧ Moves s t := by
  obtain ⟨-, new, rfl⟩ := insertAccount_ok done
  have among {other : UserRepaymentAccount} (member : other ∈ s.accounts ++ [row]) :
      other ∈ s.accounts ∨ other = row :=
    (List.mem_append.mp member).imp_right List.mem_singleton.mp
  -- Another active row of the same user would have been in the way.
  have at_ {id : Nat} {other : UserRepaymentAccount} (stored : (s.accounts ++ [row])[id]? = some other)
      (active : other.isActive = true) (same : other.userId = row.userId) : id = s.accounts.length := by
    by_cases old : id < s.accounts.length
    · rw [List.getElem?_append_left old] at stored
      rw [(new other (List.mem_of_getElem? stored)).2 same] at active
      cases active
    · have bound := (List.getElem?_eq_some_iff.mp stored).1
      simp only [List.length_append, List.length_singleton] at bound
      omega
  refine ⟨⟨?_, ?_, ?_, ?_, ?_, ?_, kept.verified⟩, ?_, ?_⟩
  · intro i j first second stored stored' active active' same
    by_cases owned : first.userId = row.userId
    · rw [at_ stored active owned, at_ stored' active' (same.symm.trans owned)]
    · have old {id : Nat} {other : UserRepaymentAccount}
          (stored : (s.accounts ++ [row])[id]? = some other) (different : other.userId ≠ row.userId) :
          s.accounts[id]? = some other := by
        by_cases before : id < s.accounts.length
        · rwa [List.getElem?_append_left before] at stored
        · obtain ⟨bound, there⟩ := List.getElem?_eq_some_iff.mp stored
          simp only [List.length_append, List.length_singleton] at bound
          obtain rfl : id = s.accounts.length := by omega
          simp only [List.getElem_concat_length] at there
          exact absurd (there ▸ rfl) different
      exact kept.one i j first second (old stored owned)
        (old stored' fun owned' => owned (same.trans owned')) active active' same
  · show ((s.accounts ++ [row]).map (·.virtualAccountNo)).Nodup
    rw [List.map_append]
    refine List.nodup_append.mpr ⟨kept.numbers, List.nodup_singleton _, ?_⟩
    intro number member other added same
    obtain ⟨account, listed, rfl⟩ := List.mem_map.mp member
    obtain rfl := List.mem_singleton.mp added
    exact (new account listed).1 same
  · intro other member
    rcases among member with old | rfl
    · exact kept.retired other old
    · simp [opens.active, opens.current]
  · show s.provisionAudits ++ row.audit.toList = (s.accounts ++ [row]).filterMap (·.audit)
    rw [List.filterMap_append, kept.audits]
    cases stored : row.audit <;> simp [stored]
  · intro other member
    rcases among member with old | rfl
    · exact kept.audited other old
    · exact opens.audited
  · intro other member
    rcases among member with old | rfl
    · exact kept.opened other old
    · exact opens.backs
  · intro id other stored
    have before := (List.getElem?_eq_some_iff.mp stored).1
    exact ⟨other, (List.getElem?_append_left before).trans stored, .inl rfl⟩
  · rintro userId ⟨other, member, active⟩
    exact ⟨other, List.mem_append_left _ member, active⟩

theorem map_retire {β : Type} {g : UserRepaymentAccount → β} {rows : List UserRepaymentAccount}
    (same : ∀ row, g (deactivate now row) = g row) : (retire now found rows).map g = rows.map g := by
  apply List.ext_getElem?
  intro id
  simp only [retire, List.getElem?_map, List.getElem?_mapIdx, Option.map_map]
  cases rows[id]? with
  | none => rfl
  | some row =>
    simp only [Option.map_some, Function.comp_apply, Option.some.injEq]
    split
    · exact same row
    · rfl

theorem getElem?_retire {rows : List UserRepaymentAccount} {id : Nat}
    (stored : (retire now found rows)[id]? = some row') :
    ∃ row, rows[id]? = some row ∧ Ages row row' ∧ (row'.isActive = true → row' = row) ∧
      (id ∉ found → row' = row) := by
  rw [retire, List.getElem?_mapIdx] at stored
  obtain ⟨row, there, rfl⟩ := Option.map_eq_some_iff.mp stored
  refine ⟨row, there, ?_⟩
  split
  · rename_i chosen
    simp only [Bool.and_eq_true, decide_eq_true_eq] at chosen
    refine ⟨.inr ⟨chosen.2, now, rfl⟩, fun impossible => ?_, fun absent => absurd chosen.1 absent⟩
    cases impossible
  · exact ⟨.inl rfl, fun _ => rfl, fun _ => rfl⟩

theorem mem_retire {rows : List UserRepaymentAccount} (member : row' ∈ retire now found rows) :
    ∃ row ∈ rows, Ages row row' := by
  obtain ⟨id, stored⟩ := List.mem_iff_getElem?.mp member
  obtain ⟨row, there, ages, -⟩ := getElem?_retire stored
  exact ⟨row, List.mem_of_getElem? there, ages⟩

theorem Kept.retire (kept : Kept s) :
    Kept { s with accounts := retire now found s.accounts } := by
  refine ⟨?_, ?_, ?_, ?_, ?_, ?_, kept.verified⟩
  · intro i j row other stored stored' active active' same
    obtain ⟨row, there, -, unchanged, -⟩ := getElem?_retire stored
    obtain ⟨other, there', -, unchanged', -⟩ := getElem?_retire stored'
    obtain rfl := unchanged active
    obtain rfl := unchanged' active'
    exact kept.one i j _ _ there there' active active' same
  · have same : (UserRepaymentAccountsService.retire now found s.accounts).map (·.virtualAccountNo) =
        s.accounts.map (·.virtualAccountNo) := map_retire fun _ => rfl
    exact same ▸ kept.numbers
  · intro row' member
    obtain ⟨row, there, same | ⟨-, time, same⟩⟩ := mem_retire member
    · exact same ▸ kept.retired row there
    · simp [same, deactivate]
  · have same : (UserRepaymentAccountsService.retire now found s.accounts).map (·.audit) =
        s.accounts.map (·.audit) := map_retire fun _ => rfl
    have all (rows : List UserRepaymentAccount) :
        rows.filterMap (·.audit) = (rows.map (·.audit)).filterMap id := by
      rw [List.filterMap_map]
      rfl
    show s.provisionAudits = (UserRepaymentAccountsService.retire now found s.accounts).filterMap _
    rw [all, same, ← all]
    exact kept.audits
  · intro row' member audit stored
    obtain ⟨row, there, ages⟩ := mem_retire member
    have owner : row'.userId = row.userId := ages.field fun _ _ => rfl
    have written : row'.audit = row.audit := ages.field fun _ _ => rfl
    rw [owner]
    exact kept.audited row there audit (written ▸ stored)
  · intro row' member
    obtain ⟨row, there, ages⟩ := mem_retire member
    have owner : row'.userId = row.userId := ages.field fun _ _ => rfl
    have openedOn : row'.openedOn = row.openedOn := ages.field fun _ _ => rfl
    rw [owner, openedOn]
    exact kept.opened row there

def Own (userId : Nat) (found : List Nat) (s : Desk) : Prop :=
  ∀ id ∈ found, ∃ row, s.accounts[id]? = some row ∧ row.userId = userId

theorem Own.moves (own : Own userId found s) (moves : Moves s t) : Own userId found t := by
  intro id member
  obtain ⟨row, stored, owner⟩ := own id member
  obtain ⟨row', stored', ages⟩ := moves.lasts id row stored
  have same : row'.userId = row.userId := ages.field fun _ _ => rfl
  exact ⟨row', stored', same.trans owner⟩

theorem retire_getElem? (time : Int) (ids : List Nat) {rows : List UserRepaymentAccount} {id : Nat}
    (stored : rows[id]? = some row) :
    ∃ row', (retire time ids rows)[id]? = some row' ∧ Ages row row' ∧ (id ∉ ids → row' = row) := by
  rw [retire, List.getElem?_mapIdx, stored]
  refine ⟨_, rfl, ?_⟩
  dsimp only
  split
  · rename_i chosen
    simp only [Bool.and_eq_true, decide_eq_true_eq] at chosen
    exact ⟨.inr ⟨chosen.2, time, rfl⟩, fun absent => absurd chosen.1 absent⟩
  · exact ⟨.inl rfl, fun _ => rfl⟩

/-- The user whose rows are retired gets the new one. -/
theorem Moves.replace (own : Own row.userId found s) (active : row.isActive = true)
    (accounts : t.accounts = retire now found s.accounts ++ [row]) : Moves s t where
  lasts id other stored := by
    obtain ⟨other', there, ages, -⟩ := retire_getElem? now found stored
    have before := (List.getElem?_eq_some_iff.mp there).1
    exact ⟨other', by rw [accounts, List.getElem?_append_left before]; exact there, ages⟩
  served userId := by
    rintro ⟨other, member, owner, isActive⟩
    obtain ⟨id, stored⟩ := List.mem_iff_getElem?.mp member
    by_cases chosen : id ∈ found
    · obtain ⟨same, there, owner'⟩ := own id chosen
      obtain rfl := Option.some.inj (stored.symm.trans there)
      exact ⟨row, by simp [accounts], owner'.symm.trans owner, active⟩
    · obtain ⟨other', there, -, same⟩ := retire_getElem? now found stored
      obtain rfl := same chosen
      exact ⟨other', by simp [accounts, List.mem_of_getElem? there], owner, isActive⟩

theorem Kept.view (kept : Kept s) (accounts : t.accounts = s.accounts)
    (audits : t.provisionAudits = s.provisionAudits)
    (verified : ∀ row ∈ t.kyc.verifications, row.status = .verified) : Kept t := by
  refine ⟨?_, ?_, ?_, ?_, ?_, ?_, verified⟩
  · simpa only [accounts] using kept.one
  · simpa only [accounts] using kept.numbers
  · simpa only [accounts] using kept.retired
  · simpa only [accounts, audits] using kept.audits
  · simpa only [accounts] using kept.audited
  · simpa only [accounts] using kept.opened

def Lasting (fact : Desk → Prop) : Prop := ∀ s t, Moves s t → fact s → fact t

theorem lasting_true : Lasting fun _ => True := fun _ _ _ _ => trivial

theorem command_meets {α : Type} {label : DeskAccess} {f : DeskReply → Desk → Except AccountError α × Desk}
    {fact : Desk → Prop} {post : α → Desk → Prop} (lasting : Lasting fact) (here : fact s)
    (does : ∀ reply t, Kept t → fact t → Kept (f reply t).2 ∧ Moves t (f reply t).2 ∧
      Proc.outcome post (fun _ _ => True) (f reply t)) :
    (command label f).Meets (keeping.contract tid) post (fun _ _ => True) s := by
  refine statement_meets fun t moved kept i _ => ?_
  have ticked : Kept (Clocked.tick i.elapsed t) := Kept.view kept rfl rfl kept.verified
  have ticks : Moves t (Clocked.tick i.elapsed t) := moves_of_accounts rfl
  refine ⟨fun _ => ⟨ticked, ticks, trivial⟩, fun _ => ?_⟩
  obtain ⟨kept', moves, ended⟩ :=
    does i.data _ ticked (lasting t _ ticks (lasting s t moved here))
  exact ⟨kept', ticks.trans moves, fun _ => trivial, fun _ => ended⟩

/-- A statement that leaves the table alone. -/
theorem reads_meets {α : Type} {label : DeskAccess} {f : DeskReply → Desk → Except AccountError α}
    {post : α → Desk → Prop} (reads : ∀ reply t a, Kept t → f reply t = .ok a → post a t) :
    (command label fun reply t => (f reply t, t)).Meets (keeping.contract tid) post
      (fun _ _ => True) s := by
  refine command_meets lasting_true trivial fun reply t kept _ => ?_
  refine ⟨kept, moves_of_accounts rfl, ?_⟩
  cases ended : f reply t with
  | error e => trivial
  | ok a => exact reads reply t a kept ended

theorem findActive_complies : (findActive userId).Complies (keeping.contract tid) :=
  fun _ => reads_meets fun _ _ _ _ _ => trivial

theorem present_some {text : Option String} {value : String} (stored : present text = some value) :
    (present text).isSome := by simp [stored]

/-- Whoever has the fields of an identity can have an account. -/
theorem backs_of_identity {verification : KycVerification} {user : User} {identity : Identity}
    (owner : hasKey userId tier1 verification = true) (verified : verification.status = .verified)
    (found : identityOf verification user = some identity) : Backs userId verification := by
  simp only [hasKey, Bool.and_eq_true, decide_eq_true_eq] at owner
  obtain ⟨licenseNumber, number, found⟩ := Option.bind_eq_some_iff.mp found
  obtain ⟨customerName, -, found⟩ := Option.bind_eq_some_iff.mp found
  obtain ⟨idType, type, found⟩ := Option.bind_eq_some_iff.mp found
  obtain ⟨firstName, -, found⟩ := Option.bind_eq_some_iff.mp found
  obtain ⟨lastName, -, found⟩ := Option.bind_eq_some_iff.mp found
  obtain ⟨identityType, mapped, -⟩ := Option.map_eq_some_iff.mp found
  refine ⟨owner.1, owner.2, verified, present_some number, ?_⟩
  rw [type]
  cases idType with
  | bvn => exact .inl rfl
  | nin => exact .inr rfl
  | passport => cases mapped
  | driversLicense => cases mapped

/-- The status of the row is not asked, and all rows are verified. -/
theorem provision_meets {accountReference : String} :
    (provision userId accountReference).Meets (keeping.contract tid)
      (fun result _ => ∀ openedOn opened, result = some (openedOn, opened) → Backs userId openedOn)
      (fun _ _ => True) s := by
  have identified : (findIdentity userId).Meets (keeping.contract tid) (fun found _ =>
      ∀ verification identity, found = some (verification, identity) → Backs userId verification)
      (fun _ _ => True) s := by
    refine reads_meets fun _ t found kept ended verification identity same => ?_
    rw [← Except.ok.inj ended] at same
    obtain ⟨row, there, same⟩ := Option.bind_eq_some_iff.mp same
    obtain ⟨user, -, same⟩ := Option.bind_eq_some_iff.mp same
    obtain ⟨identity', made, same⟩ := Option.map_eq_some_iff.mp same
    obtain ⟨rfl, rfl⟩ := Prod.mk.inj same
    exact backs_of_identity (List.find?_some there)
      (kept.verified row (List.mem_of_find?_eq_some there)) made
  refine identified.seq fun found t backs => ?_
  cases found with
  | none => exact fun _ _ impossible => by cases impossible
  | some row =>
    obtain ⟨verification, identity⟩ := row
    have opens : (createVirtualAccount identity accountReference).Complies (keeping.contract tid) := by
      refine fun _ => command_meets lasting_true trivial fun reply t kept _ => ?_
      cases reply.opened <;> exact ⟨kept, moves_of_accounts rfl, trivial⟩
    refine (opens t).seq fun opened u _ => ?_
    rintro _ _ ⟨⟩
    exact backs verification identity rfl

theorem opens_newAccount {provider : String} {opened : VirtualAccount} {openedOn : KycVerification}
    {audit : Option ProvisionAudit} (backs : Backs userId openedOn)
    (about : ∀ row, audit = some row → row.targetId = userId) :
    Opens (newAccount provider userId opened openedOn audit) where
  active := rfl
  current := rfl
  backs := backs
  audited := about

theorem createAccount_complies (opens : Opens row) :
    (createAccount row).Complies (keeping.contract tid) := by
  refine fun s => command_meets lasting_true trivial fun _ t kept _ => ?_
  rcases done : insertAccount row t with ⟨_ | row', u⟩
  · rw [insertAccount_error done]
    exact ⟨kept, moves_of_accounts rfl, trivial⟩
  · obtain ⟨kept', moves⟩ := kept.insertAccount opens done
    exact ⟨kept', moves, trivial⟩

theorem readActive_meets : (readActive userId).Meets (keeping.contract tid)
    (fun found t => Own userId found t) (fun _ _ => True) s := by
  refine reads_meets fun _ t found _ ended id member => ?_
  rw [← Except.ok.inj ended] at member
  obtain ⟨⟨id', row⟩, listed, rfl⟩ := List.mem_map.mp member
  obtain ⟨stored, active⟩ := mem_findRows.mp listed
  simp only [Bool.and_eq_true, decide_eq_true_eq] at active
  exact ⟨row, stored, active.1⟩

theorem replaceAccount_meets (opens : Opens row) (own : Own row.userId found s) :
    (replaceAccount found row).Meets (keeping.contract tid) (fun _ _ => True) (fun _ _ => True) s := by
  have lasting : Lasting (Own row.userId found) := fun _ _ moves own => own.moves moves
  refine command_meets lasting own fun _ t kept own => ?_
  rcases done : insertAccount row { t with accounts := retire t.kyc.now found t.accounts } with
    ⟨_ | row', u⟩
  · exact ⟨kept, moves_of_accounts rfl, trivial⟩
  · obtain ⟨-, -, accounts⟩ := insertAccount_ok done
    have replaced : u.accounts = retire t.kyc.now found t.accounts ++ [row] := by rw [accounts]
    exact ⟨(kept.retire.insertAccount opens done).1, Moves.replace own opens.active replaced, trivial⟩

/-- Rows are only written when they are verified. -/
def verifying : Contract KycStore (Reply KycReply) KycAccess where
  inv s := ∀ row ∈ s.verifications, row.status = .verified
  allowed _ _ _ := True
  rely _ _ := True
  guar _ _ _ _ := True

theorem leaves_verifying {α : Type} {p : KycAction α} (leaves : p.Leaves KycService.view) :
    p.Complies verifying :=
  leaves.complies fun _ _ _ _ same verified =>
    ⟨fun row member => verified row ((Prod.mk.inj same).2 ▸ member), trivial⟩

theorem writeTier1_verifying {dto : SubmitKycDto} {result : KycVerifyResult}
    {verifiedDob : Option String} : (writeTier1 userId dto result verifiedDob).Complies verifying := by
  intro s
  refine statement_meets fun t _ verified i _ => ?_
  refine ⟨fun _ => ⟨verified, trivial, trivial⟩, fun _ => ?_⟩
  have verified : ∀ row ∈ (Clocked.tick i.elapsed t).verifications, row.status = .verified := verified
  generalize Clocked.tick i.elapsed t = u at verified
  dsimp only
  split
  · exact ⟨verified, trivial, fun _ => trivial, fun _ => trivial⟩
  cases u.users[userId]? with
  | none => exact ⟨verified, trivial, fun _ => trivial, fun _ => trivial⟩
  | some user =>
    refine ⟨fun row member => ?_, trivial, fun _ => trivial, fun _ => trivial⟩
    rcases mem_upsert.mp member with rfl | ⟨old, -⟩
    · rfl
    · exact verified row old

theorem submitTier1_verifying {dto : SubmitKycDto} :
    (KycService.submitTier1 userId dto).Complies verifying := by
  have readsVerification : (findVerification userId tier1).Leaves KycService.view :=
    statement_leaves (fun _ _ => rfl) fun _ _ => rfl
  have readsClaimed : (claimedByOther userId dto).Leaves KycService.view :=
    statement_leaves (fun _ _ => rfl) fun _ _ => rfl
  refine (leaves_verifying readsVerification).bind fun existing => ?_
  split
  · exact Proc.complies_throw
  split
  · exact Proc.complies_throw
  refine (leaves_verifying readsClaimed).bind fun claimed => ?_
  split
  · exact Proc.complies_throw
  refine (leaves_verifying resolve_leaves).bind fun resolved => ?_
  refine (writeTier1_verifying.catching fun _ => Proc.complies_throw).bind fun _ => ?_
  exact fun _ => trivial

theorem revokeToTier_verifying {dto : RevokeKycDto} {onInTx : Option OpsAuditLog} :
    (revokeToTier userId dto onInTx).Complies verifying := by
  refine Proc.Complies.bind (fun s => statement_meets fun t _ verified i _ => ?_) fun _ _ => trivial
  refine ⟨fun _ => ⟨verified, trivial, trivial⟩, fun _ => ?_⟩
  have verified : ∀ row ∈ (Clocked.tick i.elapsed t).verifications, row.status = .verified := verified
  generalize Clocked.tick i.elapsed t = u at verified
  cases u.users[userId]? with
  | none => exact ⟨verified, trivial, fun _ => trivial, fun _ => trivial⟩
  | some user =>
    exact ⟨fun row member => verified row (List.mem_filter.mp member).1, trivial, fun _ => trivial,
      fun _ => trivial⟩

theorem onKyc_complies {α : Type} {p : KycAction α} (complies : p.Complies verifying) :
    (onKyc p).Complies (keeping.contract tid) := by
  intro s
  have here : (fun _ : Desk => True) s := trivial
  refine (Proc.Meets.zoom (d := keeping.contract tid) (fun _ _ _ _ => ⟨trivial, trivial⟩)
    (fun _ _ t kept _ _ => ⟨Kept.verified kept, trivial⟩) ?_ here (complies s.kyc)).imp
    (fun _ _ _ => trivial) fun _ _ _ => trivial
  exact fun _ _ t u kept _ verified _ =>
    ⟨Kept.view kept rfl rfl verified, moves_of_accounts rfl, trivial⟩

variable {provider : String}

theorem ensureForUser_complies {audit : Option ProvisionAudit}
    (about : ∀ row, audit = some row → row.targetId = userId) :
    (ensureForUser provider userId audit).Complies (keeping.contract tid) := by
  refine findActive_complies.bind fun existing => ?_
  cases existing with
  | some row => exact fun _ => trivial
  | none =>
    refine fun s => provision_meets.seq fun provisioned t backs => ?_
    cases provisioned with
    | none => trivial
    | some provisioned =>
      obtain ⟨openedOn, opened⟩ := provisioned
      have opens : Opens (newAccount provider userId opened openedOn audit) :=
        opens_newAccount (backs openedOn opened rfl) about
      exact (createAccount_complies opens t).seq fun _ _ _ => trivial

theorem replaceForUser_complies {stamp : Int} :
    (replaceForUser provider userId stamp).Complies (keeping.contract tid) := by
  refine findActive_complies.bind fun current s => ?_
  refine provision_meets.seq fun provisioned t backs => ?_
  cases provisioned with
  | none => trivial
  | some provisioned =>
    obtain ⟨openedOn, opened⟩ := provisioned
    refine readActive_meets.seq fun found u own => ?_
    have opens : Opens (newAccount provider userId opened openedOn none) :=
      opens_newAccount (backs openedOn opened rfl) fun _ impossible => by cases impossible
    exact (replaceAccount_meets opens own).seq fun _ _ _ => trivial

theorem procedure_complies {operation : Operation} :
    (procedure provider tid operation).Complies (keeping.contract tid) := by
  have ends {α : Type} {p : DeskAction α} (complies : p.Complies (keeping.contract tid)) :
      (p.bind fun _ => .pure ()).Complies (keeping.contract tid) := complies.bind fun _ _ => trivial
  have unaudited (userId : Nat) : (ensureForUser provider userId none).Complies (keeping.contract tid) :=
    ensureForUser_complies fun _ impossible => by cases impossible
  cases operation with
  | submitTier1 userId dto =>
    refine ends ((onKyc_complies submitTier1_verifying).bind fun message => ?_)
    have caught : (((ensureForUser provider userId none).bind fun _ => .pure ()).catching
        fun _ => .pure ()).Complies (keeping.contract tid) :=
      (ends (unaudited userId)).catching fun _ _ => trivial
    exact caught.bind fun _ _ => trivial
  | reset caller userId => exact ends (onKyc_complies revokeToTier_verifying)
  | revoke caller userId dto => exact ends (onKyc_complies revokeToTier_verifying)
  | provisionVa caller userId =>
    have ensures : (ensureForUser provider userId (some ⟨caller.opsUserId, userId, caller.requestId,
        caller.ipAddress⟩)).Complies (keeping.contract tid) :=
      ensureForUser_complies fun _ same => by cases same; rfl
    refine ends (ensures.bind fun result => ?_)
    cases result with
    | none => exact Proc.complies_throw
    | some result => exact fun _ => trivial
  | repaymentAccount userId =>
    refine ends ((unaudited userId).bind fun va => ?_)
    cases va with
    | none => exact Proc.complies_throw
    | some va => exact fun _ => trivial
  | replaceForUser userId stamp => exact ends replaceForUser_complies

end Steps

abbrev Trace := List (Nat × Event Desk (Reply DeskReply) DeskAccess)
abbrev DeskConfig := Config Desk (Reply DeskReply) DeskAccess AccountError Unit

/-- Nobody is verified, and no account was opened. -/
structure Unused (s : Desk) : Prop where
  verifications : s.kyc.verifications = []
  accounts : s.accounts = []
  provisionAudits : s.provisionAudits = []

theorem Unused.kept {s : Desk} (unused : Unused s) : Kept s := by
  constructor <;> simp [unused.verifications, unused.accounts, unused.provisionAudits]

section Runs
variable {provider : String} {start : Desk} {trace : Trace} {c : DeskConfig}

theorem runs_kept (unused : Unused start) (run : Runs (procedure provider) start trace c) :
    keeping.Holds (fun _ _ _ => True) (fun _ _ _ => True) trace c :=
  run.holds keeping_sound (fun _ _ _ _ _ _ => trivial) (fun _ _ _ _ _ _ => trivial) unused.kept
    (fun _ => trivial) (fun _ _ s _ _ => procedure_complies s) fun _ _ => trivial

/-- In every run a user has one active account at most, a number is one account's, each account
was opened on a verified BVN or NIN of its user although the status is never asked, and the
audit rows are those of the accounts that ops opened, in their order. -/
theorem accounts_kept (unused : Unused start) (run : Runs (procedure provider) start trace c) :
    Kept c.shared := (runs_kept unused run).inv

/-- `findUnique({ where: { virtual_account_no } })`, as the collection webhook reads it. -/
def findByNumber (number : String) (s : Desk) : Option UserRepaymentAccount :=
  s.accounts.find? (·.virtualAccountNo = number)

theorem findByNumber_eq_some {s : Desk} {number : String} {row : UserRepaymentAccount} (kept : Kept s) :
    findByNumber number s = some row ↔ row ∈ s.accounts ∧ row.virtualAccountNo = number := by
  constructor
  · exact fun found => ⟨List.mem_of_find?_eq_some found, by simpa using List.find?_some found⟩
  · rintro ⟨member, rfl⟩
    cases found : findByNumber row.virtualAccountNo s with
    | none =>
      have absent := List.find?_eq_none.mp found row member
      simp at absent
    | some other =>
      have same : other.virtualAccountNo = row.virtualAccountNo := by simpa using List.find?_some found
      exact congrArg some (List.inj_on_of_nodup_map kept.numbers
        (List.mem_of_find?_eq_some found) member same)

/-- From any moment of a run on, a number that was issued leads to the same user, whatever
happened to the account since, and whoever had an active account has one. -/
theorem numbers_keep_their_user (unused : Unused start)
    (run : Runs (procedure provider) start trace c) {first rest : Trace} (split : trace = first ++ rest) :
    (∀ number row, findByNumber number (stateAfter start first) = some row →
      ∃ row', findByNumber number c.shared = some row' ∧ Ages row row') ∧
    ∀ userId, HasActive userId (stateAfter start first) → HasActive userId c.shared := by
  have held := runs_kept unused run
  have moves : Moves (stateAfter start first) c.shared := by
    refine run.keeps (Moves (stateAfter start first)) (fun e member moves => ?_) split
      (moves_of_accounts rfl)
    exact moves.trans (held.events e member).2.2
  refine ⟨fun number row found => ?_, moves.served⟩
  obtain ⟨id, stored⟩ := List.mem_iff_getElem?.mp (List.mem_of_find?_eq_some found)
  obtain ⟨row', stored', ages⟩ := moves.lasts id row stored
  have same : row'.virtualAccountNo = row.virtualAccountNo := ages.field fun _ _ => rfl
  have number' : row.virtualAccountNo = number := by simpa using List.find?_some found
  exact ⟨row', (findByNumber_eq_some held.inv).mpr ⟨List.mem_of_getElem? stored', same.trans number'⟩,
    ages⟩

end Runs

def accesses (tid number : Nat) (data : DeskReply) : List (Choice Operation (Reply DeskReply)) :=
  List.replicate number (.run tid { data })

def boost (virtualAccountNo : String) : DeskReply :=
  { kyc := resolvesAda.data
    opened := some ⟨virtualAccountNo, "Ada Obi", "Boost Microfinance Bank"⟩ }

/-- A verification that opens an account, one call that finds it, and a replacement. -/
def moving : List (Choice Operation (Reply DeskReply)) :=
  .start (.submitTier1 0 ada) :: accesses 0 8 (boost "0100000001") ++
    .start (.provisionVa support 0) :: accesses 1 1 (boost "0100000002") ++
    .start (.replaceForUser 0 1793577600000) :: accesses 2 5 (boost "0100000003")

def opening : Desk := { kyc := newUser }

theorem unused_opening : Unused opening := ⟨rfl, rfl, rfl⟩

theorem accounts_kept_sample : ∃ trace c, Runs (procedure "palmpay") opening trace c ∧
    c.shared.accounts.length = 2 ∧ Kept c.shared := by
  obtain ⟨trace, c, run, checked⟩ := exists_run (procedure "palmpay") opening moving
    (fun _ c => decide (c.shared.accounts.length = 2)) (by decide +kernel)
  simp only [decide_eq_true_eq] at checked
  exact ⟨trace, c, run, checked, accounts_kept unused_opening run⟩

/-- The number that was replaced still leads to its user. -/
theorem numbers_keep_their_user_sample : ∃ trace c, Runs (procedure "palmpay") opening trace c ∧
    HasActive 0 c.shared ∧ ∃ row, findByNumber "0100000001" c.shared = some row ∧
      row.userId = 0 ∧ row.isActive = false := by
  obtain ⟨trace, c, run, checked⟩ := exists_run (procedure "palmpay") opening moving
    (fun trace c => trace.any (fun e => (findByNumber "0100000001" e.2.after).any fun row =>
        row.userId = 0 && row.isActive) &&
      (findByNumber "0100000001" c.shared).any fun row => !row.isActive) (by decide +kernel)
  simp only [Bool.and_eq_true, List.any_eq_true, Option.any_eq_true, decide_eq_true_eq] at checked
  obtain ⟨⟨e, member, row, issued, owner, active⟩, last, found, retired⟩ := checked
  obtain ⟨past, rest, split⟩ := List.append_of_mem member
  have split : trace = (past ++ [e]) ++ rest := by simp [split]
  obtain ⟨leads, served⟩ := numbers_keep_their_user unused_opening run split
  rw [stateAfter_append] at leads served
  obtain ⟨row', found', ages⟩ := leads "0100000001" row issued
  obtain rfl := Option.some.inj (found.symm.trans found')
  have same : last.userId = row.userId := ages.field fun _ _ => rfl
  have hasActive : HasActive 0 e.2.after := ⟨row, List.mem_of_find?_eq_some issued, owner, active⟩
  exact ⟨trace, c, run, served 0 hasActive, last, found, same.trans owner, by simpa using retired⟩

end Bitmonie.UserRepaymentAccountsService
