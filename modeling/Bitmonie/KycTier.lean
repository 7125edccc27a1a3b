import Bitmonie.Interleaving
import Bitmonie.Kyc

/-! Whether the tier of a user is backed by a row of that tier, whatever order tiers are
granted and revoked in. -/
namespace Bitmonie.KycService

def Verified (userId tier : Nat) (s : KycStore) : Prop :=
  ∃ row ∈ s.verifications, row.userId = userId ∧ row.tier = tier ∧ row.status = .verified

theorem verified_iff {userId tier : Nat} {s : KycStore} :
    (s.verifications.any fun row =>
      row.userId = userId && row.tier = tier && row.status = .verified) = true ↔
      Verified userId tier s := by
  simp [Verified, and_assoc]

instance (userId tier : Nat) (s : KycStore) : Decidable (Verified userId tier s) :=
  decidable_of_iff _ verified_iff

def Backed (s : KycStore) : Prop :=
  ∀ userId user, s.users[userId]? = some user → user.kycTier = 0 ∨ Verified userId user.kycTier s

def Raises (e : Event KycStore (Reply KycReply) KycAccess) : Prop :=
  ∃ userId targetTier user user', e.label = .revoke userId targetTier ∧
    e.before.users[userId]? = some user ∧ e.after.users[userId]? = some user' ∧
      user.kycTier < user'.kycTier

/-- A tier that is revoked to is 0, or one that the user is verified for. -/
def backedTarget (label : KycAccess) (i : Reply KycReply) (s : KycStore) : Bool :=
  i.fails || match label with
  | .revoke userId targetTier => targetTier = 0 || decide (Verified userId targetTier s)
  | _ => true

/-- Rows are of tier 1, and a user is verified for no other tier than the one on the row. -/
structure Consistent (s : KycStore) : Prop where
  first : ∀ row ∈ s.verifications, row.tier = tier1
  backed : Backed s
  only : ∀ userId user tier, s.users[userId]? = some user → Verified userId tier s →
    user.kycTier = tier

/-- No revocation raises a tier. -/
def Lowers (label : KycAccess) (s t : KycStore) : Prop :=
  ∀ userId targetTier user user', label = .revoke userId targetTier →
    s.users[userId]? = some user → t.users[userId]? = some user' → user'.kycTier ≤ user.kycTier

def granting : Discipline KycStore (Reply KycReply) KycAccess where
  inv := Consistent
  allowed label i s := backedTarget label i s = true
  fresh _ _ := True
  rely _ _ _ := True
  guar _ label _ := Lowers label

theorem granting_sound : granting.Sound where
  refl _ _ := trivial
  trans _ _ _ _ _ _ := trivial
  compatible _ _ _ _ _ _ _ _ _ := trivial
  fresh _ _ _ _ _ := trivial

section Steps
variable {tid userId tier : Nat} {s t : KycStore} {user new : User} {row : KycVerification}

def view (s : KycStore) : List User × List KycVerification := (s.users, s.verifications)

theorem verified_of_rows (same : t.verifications = s.verifications) :
    Verified userId tier t ↔ Verified userId tier s := by
  simp [Verified, same]

theorem Consistent.view (consistent : Consistent s) (same : view t = view s) : Consistent t := by
  obtain ⟨users, rows⟩ := Prod.mk.inj same
  refine ⟨rows ▸ consistent.first, fun userId user found => ?_, fun userId user tier found row => ?_⟩
  · rw [verified_of_rows rows]
    exact consistent.backed userId user (users ▸ found)
  · exact consistent.only userId user tier (users ▸ found) ((verified_of_rows rows).mp row)

theorem lowers_of_users {label : KycAccess} (same : t.users = s.users) : Lowers label s t := by
  intro userId targetTier user user' _ found found'
  rw [same, found] at found'
  obtain rfl := Option.some.inj found'
  exact Nat.le_refl _

theorem leaves_complies {α : Type} {p : KycAction α} (leaves : p.Leaves view) :
    p.Complies (granting.contract tid) := by
  refine leaves.complies fun _ _ s t same consistent => ⟨consistent.view same, ?_⟩
  exact lowers_of_users (Prod.mk.inj same).1

theorem mem_upsert {rows : List KycVerification} {other : KycVerification} :
    other ∈ upsert row rows ↔
      other = row ∨ other ∈ rows ∧ hasKey row.userId row.tier other = false := by
  unfold upsert
  split
  · rename_i present
    obtain ⟨old, member, keyed⟩ := List.any_eq_true.mp present
    simp only [List.mem_map]
    constructor
    · rintro ⟨stored, member, rfl⟩
      by_cases same : hasKey row.userId row.tier stored = true
      · simp [same]
      · simp [same, member]
    · rintro (rfl | ⟨there, different⟩)
      · exact ⟨old, member, by simp [keyed]⟩
      · exact ⟨other, there, by simp [different]⟩
  · rename_i absent
    have different (there : other ∈ rows) : hasKey row.userId row.tier other = false := by
      by_contra keyed
      exact absent (List.any_eq_true.mpr ⟨other, there, by simpa using keyed⟩)
    simp only [List.mem_append, List.mem_singleton]
    constructor
    · rintro (there | rfl)
      · exact .inr ⟨there, different there⟩
      · exact .inl rfl
    · rintro (rfl | ⟨there, _⟩)
      · exact .inr rfl
      · exact .inl there

/-- Of a verified row, its user is verified for its tier; nothing else changes. -/
theorem verified_upsert (verified : row.status = .verified)
    (rows : t.verifications = upsert row s.verifications) :
    Verified userId tier t ↔ (userId = row.userId ∧ tier = row.tier) ∨ Verified userId tier s := by
  simp only [Verified, rows, mem_upsert]
  constructor
  · rintro ⟨other, rfl | ⟨there, _⟩, rfl, rfl, status⟩
    · exact .inl ⟨rfl, rfl⟩
    · exact .inr ⟨other, there, rfl, rfl, status⟩
  · rintro (⟨rfl, rfl⟩ | ⟨other, there, rfl, rfl, status⟩)
    · exact ⟨row, .inl rfl, rfl, rfl, verified⟩
    · by_cases same : hasKey row.userId row.tier other = true
      · simp only [hasKey, Bool.and_eq_true, decide_eq_true_eq] at same
        exact ⟨row, .inl rfl, same.1.symm, same.2.symm, verified⟩
      · exact ⟨other, .inr ⟨there, by simpa using same⟩, rfl, rfl, status⟩

theorem Consistent.verify (consistent : Consistent s) (ofTier : row.tier = tier1)
    (verified : row.status = .verified) (found : s.users[row.userId]? = some user)
    (granted : new.kycTier = tier1) : Consistent { s with
      verifications := upsert row s.verifications
      users := s.users.set row.userId new } := by
  have rows (userId tier : Nat) := @verified_upsert userId tier s { s with
    verifications := upsert row s.verifications, users := s.users.set row.userId new } row verified rfl
  refine ⟨fun other member => ?_, fun userId read there => ?_, fun userId read tier there holds => ?_⟩
  · rcases mem_upsert.mp member with rfl | ⟨old, _⟩
    · exact ofTier
    · exact consistent.first other old
  · rw [rows]
    rcases getElem?_set_cases there with ⟨rfl, rfl⟩ | ⟨_, there⟩
    · exact .inr (.inl ⟨rfl, granted.trans ofTier.symm⟩)
    · exact (consistent.backed userId read there).imp id .inr
  · rw [rows] at holds
    rcases getElem?_set_cases there with ⟨rfl, rfl⟩ | ⟨different, there⟩
    · rcases holds with ⟨_, rfl⟩ | ⟨other, member, _, rfl, _⟩
      · exact granted.trans ofTier.symm
      · exact granted.trans (consistent.first other member).symm
    · exact consistent.only userId read tier there (holds.resolve_left fun same => different same.1)

theorem writeTier1_complies {dto : SubmitKycDto} {result : KycVerifyResult}
    {verifiedDob : Option String} :
    (writeTier1 userId dto result verifiedDob).Complies (granting.contract tid) := by
  intro s
  refine statement_meets fun t _ consistent i _ => ?_
  have ticked : Consistent (Clocked.tick i.elapsed t) := consistent.view rfl
  have still (u : KycStore) : Lowers (.verify userId) t u := fun _ _ _ _ other => by cases other
  refine ⟨fun _ => ⟨ticked, still _, trivial⟩, fun _ => ?_⟩
  generalize Clocked.tick i.elapsed t = u at ticked
  dsimp only
  split
  · exact ⟨ticked, still _, fun _ => trivial, fun _ => trivial⟩
  cases found : u.users[userId]? with
  | none => exact ⟨ticked, still _, fun _ => trivial, fun _ => trivial⟩
  | some user =>
    have verified := @Consistent.verify u user (verifiedUser dto verifiedDob user)
      (verifiedRow userId dto result verifiedDob u.now) ticked rfl rfl found rfl
    exact ⟨verified, still _, fun _ => trivial, fun _ => trivial⟩

theorem resolve_leaves {dto : SubmitKycDto} : (resolve dto).Leaves view := by
  refine Proc.Leaves.catching ?_ fun _ => trivial
  refine Proc.Leaves.bind (statement_leaves (fun _ _ => rfl) fun reply s => ?_) fun result => ?_
  · cases reply.resolved <;> rfl
  · cases verifyBiodata dto result.legalName result.dateOfBirth <;> trivial

theorem submitTier1_complies {dto : SubmitKycDto} :
    (submitTier1 userId dto).Complies (granting.contract tid) := by
  have readsVerification : (findVerification userId tier1).Leaves view :=
    statement_leaves (fun _ _ => rfl) fun _ _ => rfl
  have readsClaimed : (claimedByOther userId dto).Leaves view :=
    statement_leaves (fun _ _ => rfl) fun _ _ => rfl
  refine (leaves_complies readsVerification).bind fun existing => ?_
  split
  · exact Proc.complies_throw
  split
  · exact Proc.complies_throw
  refine (leaves_complies readsClaimed).bind fun claimed => ?_
  split
  · exact Proc.complies_throw
  refine (leaves_complies resolve_leaves).bind fun resolved => ?_
  refine (writeTier1_complies.catching fun _ => Proc.complies_throw).bind fun _ => ?_
  exact fun _ => trivial

theorem verified_revoked {target : Nat} (rows : t.verifications =
      s.verifications.filter fun row => !(row.userId = userId && target < row.tier))
    {other : Nat} : Verified other tier t ↔ Verified other tier s ∧ (other = userId → tier ≤ target) := by
  simp only [Verified, rows, List.mem_filter]
  constructor
  · rintro ⟨row, ⟨member, stays⟩, rfl, rfl, status⟩
    refine ⟨⟨row, member, rfl, rfl, status⟩, fun same => ?_⟩
    simpa [same] using stays
  · rintro ⟨⟨row, member, rfl, rfl, status⟩, low⟩
    refine ⟨row, ⟨member, ?_⟩, rfl, rfl, status⟩
    by_cases same : row.userId = userId
    · simp [same, low same]
    · simp [same]

/-- The user after the transaction is backed exactly when the target is. -/
theorem revoked_backed_iff {target : Nat} (found : s.users[userId]? = some user) (backed : Backed s)
    (lowered : new.kycTier = target) (users : t.users = s.users.set userId new) (rows : t.verifications =
      s.verifications.filter fun row => !(row.userId = userId && target < row.tier)) :
    Backed t ↔ target = 0 ∨ Verified userId target s := by
  have after : t.users[userId]? = some new := users ▸ getElem?_set_of_eq found
  constructor
  · intro backed'
    have holds := backed' userId new after
    rw [lowered, verified_revoked rows] at holds
    exact holds.imp id And.left
  · intro target read there holds
    rw [verified_revoked rows]
    rw [users] at holds
    rcases getElem?_set_cases holds with ⟨rfl, rfl⟩ | ⟨different, old⟩
    · rw [lowered]
      exact target.imp id fun verified => ⟨verified, fun _ => Nat.le_refl _⟩
    · exact (backed read there old).imp id fun verified => ⟨verified, fun same => absurd same different⟩

theorem Consistent.revoke {target : Nat} (consistent : Consistent s)
    (found : s.users[userId]? = some user) (holds : target = 0 ∨ Verified userId target s)
    (lowered : new.kycTier = target) (users : t.users = s.users.set userId new) (rows : t.verifications =
      s.verifications.filter fun row => !(row.userId = userId && target < row.tier)) :
    Consistent t ∧ target ≤ user.kycTier := by
  have same : target = 0 ∨ user.kycTier = target :=
    holds.imp id (consistent.only userId user target found)
  refine ⟨⟨fun row member => ?_, ?_, fun other read tier there verified => ?_⟩, by omega⟩
  · rw [rows] at member
    exact consistent.first row (List.mem_filter.mp member).1
  · exact (revoked_backed_iff found consistent.backed lowered users rows).mpr holds
  · rw [verified_revoked rows] at verified
    rw [users] at there
    rcases getElem?_set_cases there with ⟨rfl, rfl⟩ | ⟨_, old⟩
    · have tierRead := consistent.only other user tier found verified.1
      have low := verified.2 rfl
      omega
    · exact consistent.only other read tier old verified.1

theorem revokeToTier_complies {dto : RevokeKycDto} {onInTx : Option OpsAuditLog} :
    (revokeToTier userId dto onInTx).Complies (granting.contract tid) := by
  refine Proc.Complies.bind (fun s => ?_) fun _ _ => trivial
  refine statement_meets fun t _ consistent i allowed => ?_
  have ticked : Consistent (Clocked.tick i.elapsed t) := consistent.view rfl
  have users : (Clocked.tick i.elapsed t).users = t.users := rfl
  refine ⟨fun _ => ⟨ticked, lowers_of_users rfl, trivial⟩, fun made => ?_⟩
  rw [users]
  cases found : t.users[userId]? with
  | none => exact ⟨ticked, lowers_of_users rfl, fun _ => trivial, fun _ => trivial⟩
  | some user =>
    have target : dto.targetTier.val = 0 ∨ Verified userId dto.targetTier t := by
      simpa [granting, Discipline.contract, backedTarget, made] using allowed
    obtain ⟨revoked, low⟩ := Consistent.revoke (t := { Clocked.tick i.elapsed t with
        verifications := t.verifications.filter fun row =>
          !(row.userId = userId && dto.targetTier.val < row.tier)
        users := t.users.set userId { user with kycTier := dto.targetTier }
        opsAuditLogs := t.opsAuditLogs ++ onInTx.toList })
      consistent found target rfl rfl rfl
    refine ⟨revoked, ?_, fun _ => trivial, fun _ => trivial⟩
    intro other tier read read' label there there'
    obtain ⟨rfl, _⟩ := KycAccess.revoke.inj label
    obtain rfl := Option.some.inj (found.symm.trans there)
    obtain rfl := Option.some.inj ((getElem?_set_of_eq found).symm.trans there')
    exact low

theorem procedure_complies {operation : Operation} :
    (procedure tid operation).Complies (granting.contract tid) := by
  cases operation with
  | submitTier1 userId dto => exact submitTier1_complies
  | reset caller userId => exact revokeToTier_complies
  | revoke caller userId dto => exact revokeToTier_complies

end Steps

/-- From users that nobody has verified, tiers stay backed and no revocation raises one, in
every run that revokes to backed tiers. -/
theorem tiers_backed {start : KycStore} (unverified : ∀ user ∈ start.users, user.kycTier = 0)
    (none : start.verifications = [])
    {trace : List (Nat × Event KycStore (Reply KycReply) KycAccess)}
    {c : Config KycStore (Reply KycReply) KycAccess KycError String}
    (run : Runs procedure start trace c)
    (targets : ∀ e ∈ trace, backedTarget e.2.label e.2.answer e.2.before = true) :
    Backed c.shared ∧ ∀ e ∈ trace, ¬ Raises e.2 := by
  have consistent : Consistent start := by
    refine ⟨by simp [none], fun userId user found => ?_, fun userId user tier _ verified => ?_⟩
    · exact .inl (unverified user (List.mem_of_getElem? found))
    · obtain ⟨row, member, _⟩ := verified
      simp [none] at member
  have held : granting.Holds (fun _ _ _ => True) (fun _ _ _ => True) trace c :=
    run.holds granting_sound (fun _ _ _ _ _ _ => trivial) (fun _ _ _ _ _ _ => trivial) consistent
      (fun _ => trivial) (fun _ _ s _ _ => procedure_complies s) targets
  refine ⟨held.inv.backed, fun e member => ?_⟩
  rintro ⟨userId, targetTier, user, user', label, before, after, raised⟩
  have lowers : Lowers e.2.label e.2.before e.2.after := (held.events e member).2.2
  have := lowers userId targetTier user user' label before after
  omega

def ada : SubmitKycDto where
  idType := .bvn
  idNumber := "22212345678"
  firstName := "Ada"
  lastName := "Obi"
  dateOfBirth := "1990-05-17"

def resolvesAda : Reply KycReply :=
  { data := { resolved := some { legalName := "OBI ADA", providerReference := "ref" } } }

def newUser : KycStore := { now := 0, users := [{}] }

def support : OpsCaller := { opsUserId := 0 }

def submitThenReset : List (Choice Operation (Reply KycReply)) :=
  .start (.submitTier1 0 ada) :: List.replicate 4 (.run 0 resolvesAda) ++
    [.start (.reset support 0), .run 1 { data := {} }]

theorem tiers_backed_sample : ∃ trace c, Runs procedure newUser trace c ∧
    (∃ e ∈ trace, Verified 0 1 e.2.before) ∧ Backed c.shared := by
  obtain ⟨trace, c, run, checked⟩ := exists_run procedure newUser submitThenReset
    (fun trace _ => trace.all (fun e => backedTarget e.2.label e.2.answer e.2.before) &&
      trace.any fun e => decide (Verified 0 1 e.2.before)) (by decide +kernel)
  simp only [Bool.and_eq_true, List.all_eq_true, List.any_eq_true, decide_eq_true_eq] at checked
  exact ⟨trace, c, run, checked.2, (tiers_backed (by simp [newUser]) rfl run checked.1).1⟩

def revokeToTier3 : List (Choice Operation (Reply KycReply)) :=
  [.start (.revoke support 0 ⟨Fin.last 3⟩), .run 0 { data := {} }]

theorem revocation_raises : ∃ trace c, Runs procedure newUser trace c ∧
    ¬ Backed c.shared ∧ ∃ e ∈ trace, Raises e.2 := by
  obtain ⟨trace, c, run, checked⟩ := exists_run procedure newUser revokeToTier3
    (fun trace c => c.shared.users.any (fun user => decide (user.kycTier = 3)) &&
      decide (c.shared.verifications = []) && trace.any fun e =>
        decide (e.2.label = .revoke 0 3 ∧ e.2.before.users = [{}] ∧
          e.2.after.users = [{ kycTier := 3 }] ∧ c.shared.users = e.2.after.users))
    (by decide +kernel)
  simp only [Bool.and_eq_true, List.any_eq_true, decide_eq_true_eq] at checked
  obtain ⟨⟨_, none⟩, e, member, label, before, after, last⟩ := checked
  refine ⟨trace, c, run, fun backed => ?_, e, member, 0, 3, {}, { kycTier := 3 }, label, ?_, ?_, ?_⟩
  · have holds := backed 0 { kycTier := 3 } (by simp [last, after])
    simp [Verified, none] at holds
  · simp [before]
  · simp [after]
  · simp

end Bitmonie.KycService
