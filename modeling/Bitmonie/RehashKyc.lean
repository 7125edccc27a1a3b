import Bitmonie.CryptoService
import Bitmonie.FirstClaims
import Bitmonie.Kyc
import Mathlib.Data.List.Sort

/-! The backfill of the digests of identity numbers. Rows made before the pepper have digests
with a salt that was not kept; the script decrypts each number and writes the digest anew. -/
namespace Bitmonie.RehashKyc
open KycService (KycIdType)

structure KycVerification where
  userId : Nat
  idType : Option KycIdType
  idNumberHash : Option String
  encryptedIdNumber : Option String
  createdAt : Int
  deriving DecidableEq

/-- How an update is answered: it may not be made, or be made and not be acknowledged. -/
inductive UpdateAnswer where
  | served | failed | lost
  deriving DecidableEq

structure Conflict where
  rowId : Nat
  userId : Nat
  idType : KycIdType
  deriving DecidableEq

structure Pass where
  rows : List KycVerification
  scanned : Nat := 0
  rehashed : Nat := 0
  alreadyCorrect : Nat := 0
  decryptFailed : Nat := 0
  conflicts : List Conflict := []

def scanOrder (ties : Nat → Nat) (a b : Nat × KycVerification) : Prop :=
  a.2.createdAt < b.2.createdAt ∨ a.2.createdAt = b.2.createdAt ∧ ties a.1 ≤ ties b.1

instance (ties : Nat → Nat) : DecidableRel (scanOrder ties) := fun a b =>
  inferInstanceAs (Decidable (a.2.createdAt < b.2.createdAt ∨
    a.2.createdAt = b.2.createdAt ∧ ties a.1 ≤ ties b.1))

/-- `id_type IS NOT NULL AND encrypted_id_number IS NOT NULL`, oldest first, with the limit.
Rows of one time come as `ties` has them. -/
def scan (ties : Nat → Nat) (limit : Option Nat) (rows : List KycVerification) : List (Nat × KycVerification) :=
  let found := findRows rows fun row => row.idType.isSome && row.encryptedIdNumber.isSome
  let ordered := found.insertionSort (scanOrder ties)
  match limit with
  | none => ordered
  | some n => ordered.take n

def taken (id : Nat) (idType : KycIdType) (hash : String) (rows : List KycVerification) : Bool :=
  rows.zipIdx.any fun other =>
    other.2 ≠ id && other.1.idType = some idType && other.1.idNumberHash = some hash

/-- The update under the unique index on type and digest. -/
def updateHash (answer : UpdateAnswer) (id : Nat) (newHash : String) (rows : List KycVerification) :
    Except AppError Unit × List KycVerification :=
  if answer = .failed then (.error .unavailable, rows)
  else match rows[id]? with
    | none => (.error .recordNotFound, rows)
    | some row =>
      if row.idType.any fun idType => taken id idType newHash rows then (.error .uniqueViolation, rows)
      else (if answer = .lost then .error .unavailable else .ok (),
        rows.set id { row with idNumberHash := some newHash })

section Script
variable (aes : AesGcm) (crypto : CryptoService) (sha256 : Sha256)

/-- One turn of the loop. Only the unique index is caught. -/
def rehashRow (applied : Bool) (answer : Nat → UpdateAnswer) (row : Nat × KycVerification)
    (pass : Pass) : Except AppError Unit × Pass :=
  match row.2.encryptedIdNumber.filter (· ≠ ""), row.2.idType with
  | some encrypted, some idType =>
    match crypto.decrypt aes encrypted with
    | none => (.ok (), { pass with decryptFailed := pass.decryptFailed + 1 })
    | some idNumber =>
      let newHash := crypto.hashKycIdNumber sha256 idNumber
      if some newHash = row.2.idNumberHash then
        (.ok (), { pass with alreadyCorrect := pass.alreadyCorrect + 1 })
      else if !applied then (.ok (), { pass with rehashed := pass.rehashed + 1 })
      else match updateHash (answer row.1) row.1 newHash pass.rows with
        | (.ok (), rows) => (.ok (), { pass with rows, rehashed := pass.rehashed + 1 })
        | (.error .uniqueViolation, rows) =>
          (.ok (), { pass with rows, conflicts := pass.conflicts ++ [⟨row.1, row.2.userId, idType⟩] })
        | (.error e, rows) => (.error e, { pass with rows })
  | _, _ => (.ok (), pass)

def rehashEach (applied : Bool) (answer : Nat → UpdateAnswer) :
    List (Nat × KycVerification) → Pass → Except AppError Unit × Pass
  | [], pass => (.ok (), pass)
  | row :: rest, pass =>
    match rehashRow aes crypto sha256 applied answer row pass with
    | (.ok (), pass) => rehashEach applied answer rest pass
    | (.error e, pass) => (.error e, pass)

/-- The whole pass; what it throws leaves the rows that it has rewritten. -/
def main (ties : Nat → Nat) (applied : Bool) (limit : Option Nat) (answer : Nat → UpdateAnswer)
    (rows : List KycVerification) : Except AppError Unit × Pass :=
  let found := scan ties limit rows
  rehashEach aes crypto sha256 applied answer found { rows, scanned := found.length }

end Script

def exitCode (pass : Pass) : Nat := if pass.decryptFailed + pass.conflicts.length > 0 then 1 else 0

def heldKey (row : KycVerification) : Option (KycIdType × String) :=
  row.idType.bind fun idType => row.idNumberHash.map fun hash => (idType, hash)

/-- What the script wants it to have. -/
def neededKey (aes : AesGcm) (crypto : CryptoService) (sha256 : Sha256) (row : KycVerification) :
    Option (KycIdType × String) :=
  (row.encryptedIdNumber.filter (· ≠ "")).bind fun encrypted =>
  row.idType.bind fun idType =>
  (crypto.decrypt aes encrypted).map fun idNumber => (idType, crypto.hashKycIdNumber sha256 idNumber)

def held (rows : List KycVerification) (id : Nat) : Option (KycIdType × String) :=
  rows[id]?.bind heldKey

def need (aes : AesGcm) (crypto : CryptoService) (sha256 : Sha256) (rows : List KycVerification)
    (id : Nat) : Option (KycIdType × String) :=
  rows[id]?.bind (neededKey aes crypto sha256)

/-- The rows are those from before, but for their digests. -/
structure Rehashed (rows rows' : List KycVerification) : Prop where
  length : rows'.length = rows.length
  row : ∀ (id : Nat) (row : KycVerification), rows[id]? = some row →
    ∃ hash, rows'[id]? = some { row with idNumberHash := hash } ∧
      (row.idType = none → hash = row.idNumberHash)

section Steps
variable {aes : AesGcm} {crypto : CryptoService} {sha256 : Sha256} {answer : Nat → UpdateAnswer}
  {rows rows' rows'' : List KycVerification} {row : KycVerification} {id : Nat} {pass : Pass}
  {idType : KycIdType} {newHash : String}

theorem Rehashed.refl (rows : List KycVerification) : Rehashed rows rows :=
  ⟨rfl, fun _ row found => ⟨row.idNumberHash, found, fun _ => rfl⟩⟩

theorem Rehashed.trans (first : Rehashed rows rows') (second : Rehashed rows' rows'') :
    Rehashed rows rows'' where
  length := second.length.trans first.length
  row id row found := by
    obtain ⟨hash, found, same⟩ := first.row id row found
    obtain ⟨hash', found, same'⟩ := second.row id _ found
    exact ⟨hash', found, fun untyped => (same' untyped).trans (same untyped)⟩

theorem Rehashed.need_eq (rehashed : Rehashed rows rows') :
    need aes crypto sha256 rows' = need aes crypto sha256 rows := by
  funext id
  unfold need
  cases found : rows[id]? with
  | none =>
    have absent : rows'[id]? = none := by
      rw [List.getElem?_eq_none_iff] at found ⊢
      rwa [rehashed.length]
    rw [absent]
  | some row =>
    obtain ⟨hash, found, -⟩ := rehashed.row id row found
    rw [found]
    rfl

theorem hash_of_key {hash hash' : Option String} (untyped : row.idType = none → hash = hash')
    (same : heldKey { row with idNumberHash := hash } = heldKey { row with idNumberHash := hash' }) :
    hash = hash' := by
  cases typed : row.idType with
  | none => exact untyped typed
  | some idType => cases hash <;> cases hash' <;> simp_all [heldKey]

/-- A table is what its index and the other columns say. -/
theorem Rehashed.eq_of_held (left : Rehashed rows rows') (right : Rehashed rows rows'')
    (same : held rows' = held rows'') : rows' = rows'' := by
  refine List.ext_getElem? fun id => ?_
  cases found : rows[id]? with
  | none =>
    rw [List.getElem?_eq_none_iff] at found
    rw [List.getElem?_eq_none_iff.mpr (left.length ▸ found),
      List.getElem?_eq_none_iff.mpr (right.length ▸ found)]
  | some row =>
    obtain ⟨hash, here, untyped⟩ := left.row id row found
    obtain ⟨hash', there, untyped'⟩ := right.row id row found
    have key := congrFun same id
    rw [held, held, here, there] at key
    rw [here, there, hash_of_key (fun typed => (untyped typed).trans (untyped' typed).symm) key]

theorem Rehashed.row_eq (rehashed : Rehashed rows rows') (same : held rows' id = held rows id) :
    rows'[id]? = rows[id]? := by
  cases found : rows[id]? with
  | none =>
    rw [List.getElem?_eq_none_iff] at found ⊢
    rwa [rehashed.length]
  | some row =>
    obtain ⟨hash, here, untyped⟩ := rehashed.row id row found
    rw [held, held, here, found] at same
    rw [here, hash_of_key untyped same]

theorem heldKey_iff (typed : row.idType = some idType) :
    heldKey row = some (idType, newHash) ↔ some newHash = row.idNumberHash := by
  rw [heldKey, typed, Option.bind_some]
  cases row.idNumberHash <;> simp [eq_comm]

theorem taken_iff : taken id idType newHash rows = true ↔
    ∃ other, other ≠ id ∧ held rows other = some (idType, newHash) := by
  unfold taken
  rw [List.any_eq_true]
  constructor
  · rintro ⟨⟨row, other⟩, member, holds⟩
    have found := List.mk_mem_zipIdx_iff_getElem?.mp member
    simp only [Bool.and_eq_true, decide_eq_true_eq] at holds
    obtain ⟨⟨different, typed⟩, hashed⟩ := holds
    exact ⟨other, different, by simp [held, heldKey, found, typed, hashed]⟩
  · rintro ⟨other, different, holds⟩
    obtain ⟨row, found, key⟩ := Option.bind_eq_some_iff.mp holds
    obtain ⟨_, typed, key⟩ := Option.bind_eq_some_iff.mp key
    obtain ⟨_, hashed, key⟩ := Option.map_eq_some_iff.mp key
    obtain ⟨rfl, rfl⟩ := Prod.mk.inj key
    exact ⟨(row, other), List.mk_mem_zipIdx_iff_getElem?.mpr found, by simp [different, typed, hashed]⟩

theorem held_set (found : rows[id]? = some row) (typed : row.idType = some idType) :
    held (rows.set id { row with idNumberHash := some newHash }) =
      Function.update (held rows) id (some (idType, newHash)) := by
  funext other
  by_cases here : other = id
  · subst here
    rw [Function.update_self, held, getElem?_set_of_eq found]
    simp [heldKey, typed]
  · rw [Function.update_of_ne here, held, held, List.getElem?_set_ne (Ne.symm here)]

theorem Rehashed.set (found : rows[id]? = some row) (typed : row.idType = some idType) :
    Rehashed rows (rows.set id { row with idNumberHash := some newHash }) where
  length := List.length_set
  row other before here := by
    by_cases same : other = id
    · subst same
      obtain rfl := Option.some.inj (found.symm.trans here)
      exact ⟨some newHash, getElem?_set_of_eq found, fun untyped => by rw [untyped] at typed; cases typed⟩
    · exact ⟨before.idNumberHash, by rw [List.getElem?_set_ne (Ne.symm same), here], fun _ => rfl⟩

/-- How the update of a row that is there ends. -/
theorem updateHash_cases (found : rows[id]? = some row) (typed : row.idType = some idType)
    (answer : UpdateAnswer) :
    answer = .failed ∧ updateHash answer id newHash rows = (.error .unavailable, rows) ∨
    taken id idType newHash rows = true ∧
      updateHash answer id newHash rows = (.error .uniqueViolation, rows) ∨
    taken id idType newHash rows = false ∧ updateHash answer id newHash rows =
      (if answer = .lost then .error .unavailable else .ok (),
        rows.set id { row with idNumberHash := some newHash }) := by
  unfold updateHash
  by_cases failed : answer = .failed
  · exact .inl ⟨failed, if_pos failed⟩
  rw [if_neg failed, found]
  dsimp only
  rw [typed, Option.any_some]
  cases held : taken id idType newHash rows with
  | true => exact .inr (.inl ⟨rfl, if_pos rfl⟩)
  | false => exact .inr (.inr ⟨rfl, if_neg Bool.false_ne_true⟩)

end Steps

/-- The row is decrypted and has another digest. -/
def differs (aes : AesGcm) (crypto : CryptoService) (sha256 : Sha256) (row : Nat × KycVerification) :
    Bool :=
  (neededKey aes crypto sha256 row.2).any fun key => heldKey row.2 ≠ some key

def correct (aes : AesGcm) (crypto : CryptoService) (sha256 : Sha256) (row : Nat × KycVerification) :
    Bool :=
  (neededKey aes crypto sha256 row.2).any fun key => heldKey row.2 = some key

def unreadable (aes : AesGcm) (crypto : CryptoService) (row : Nat × KycVerification) : Bool :=
  row.2.idType.isSome && (row.2.encryptedIdNumber.filter (· ≠ "")).any fun encrypted =>
    (crypto.decrypt aes encrypted).isNone

/-- Of the rows that are read, what is reported of one that does not have its key at the end. -/
def conflictOf (aes : AesGcm) (crypto : CryptoService) (sha256 : Sha256)
    (rows : List KycVerification) (row : Nat × KycVerification) : Option Conflict :=
  (neededKey aes crypto sha256 row.2).bind fun key =>
    if held rows row.1 = some key then none else some ⟨row.1, row.2.userId, key.1⟩

/-- What the turns of some rows make of a pass. -/
structure Outcome (aes : AesGcm) (crypto : CryptoService) (sha256 : Sha256) (before : Pass)
    (found : List (Nat × KycVerification)) (after : Pass) : Prop where
  rows : Rehashed before.rows after.rows
  keys : held after.rows = FirstClaims.takeAll (need aes crypto sha256 before.rows)
    (held before.rows) (found.map Prod.fst)
  conflicts : after.conflicts =
    before.conflicts ++ found.filterMap (conflictOf aes crypto sha256 after.rows)
  rehashed : after.rehashed + after.conflicts.length =
    before.rehashed + before.conflicts.length + found.countP (differs aes crypto sha256)
  alreadyCorrect : after.alreadyCorrect =
    before.alreadyCorrect + found.countP (correct aes crypto sha256)
  decryptFailed : after.decryptFailed =
    before.decryptFailed + found.countP (unreadable aes crypto)

section Turns
variable {aes : AesGcm} {crypto : CryptoService} {sha256 : Sha256} {answer : Nat → UpdateAnswer}
  {row : KycVerification} {id : Nat} {pass : Pass} {key : KycIdType × String}
  {idType : KycIdType} {newHash : String}

theorem held_of_found (found : pass.rows[id]? = some row) : held pass.rows id = heldKey row := by
  rw [held, found, Option.bind_some]

theorem need_of_found (found : pass.rows[id]? = some row) :
    need aes crypto sha256 pass.rows id = neededKey aes crypto sha256 row := by
  rw [need, found, Option.bind_some]

/-- A row without a number, or with one that cannot be read. -/
theorem Outcome.idle {after : Pass} (found : pass.rows[id]? = some row)
    (unneeding : neededKey aes crypto sha256 row = none) (rows : after.rows = pass.rows)
    (conflicts : after.conflicts = pass.conflicts) (rehashed : after.rehashed = pass.rehashed)
    (alreadyCorrect : after.alreadyCorrect = pass.alreadyCorrect)
    (decryptFailed : after.decryptFailed =
      pass.decryptFailed + if unreadable aes crypto (id, row) then 1 else 0) :
    Outcome aes crypto sha256 pass [(id, row)] after where
  rows := rows ▸ Rehashed.refl _
  keys := by
    rw [rows]
    exact (FirstClaims.take_none ((need_of_found found).trans unneeding)).symm
  conflicts := by simp [conflicts, conflictOf, unneeding]
  rehashed := by simp [rehashed, conflicts, differs, unneeding]
  alreadyCorrect := by simp [alreadyCorrect, correct, unneeding]
  decryptFailed := by simp [decryptFailed, List.countP_singleton]

theorem unreadable_of_needs (needs : neededKey aes crypto sha256 row = some key) :
    unreadable aes crypto (id, row) = false := by
  obtain ⟨encrypted, stored, needs⟩ := Option.bind_eq_some_iff.mp needs
  obtain ⟨idType, -, needs⟩ := Option.bind_eq_some_iff.mp needs
  obtain ⟨idNumber, decrypted, -⟩ := Option.map_eq_some_iff.mp needs
  rw [unreadable, stored, Option.any_some, decrypted]
  exact Bool.and_false _

/-- A row that has its key. -/
theorem Outcome.own (found : pass.rows[id]? = some row)
    (needs : neededKey aes crypto sha256 row = some key) (own : heldKey row = some key) :
    Outcome aes crypto sha256 pass [(id, row)]
      { pass with alreadyCorrect := pass.alreadyCorrect + 1 } where
  rows := Rehashed.refl _
  keys := (FirstClaims.take_held ((need_of_found found).trans needs)
    ⟨id, (held_of_found found).trans own⟩).symm
  conflicts := by simp [conflictOf, needs, held_of_found found, own]
  rehashed := by simp [differs, needs, own]
  alreadyCorrect := by simp [correct, needs, own]
  decryptFailed := by simp [unreadable_of_needs needs]

/-- A row whose key another one has. -/
theorem Outcome.refused (found : pass.rows[id]? = some row)
    (needs : neededKey aes crypto sha256 row = some key) (other : heldKey row ≠ some key)
    (holds : FirstClaims.Held (held pass.rows) key) :
    Outcome aes crypto sha256 pass [(id, row)]
      { pass with conflicts := pass.conflicts ++ [⟨id, row.userId, key.1⟩] } where
  rows := Rehashed.refl _
  keys := (FirstClaims.take_held ((need_of_found found).trans needs) holds).symm
  conflicts := by simp [conflictOf, needs, held_of_found found, other]
  rehashed := by
    simp [differs, needs, other]
    omega
  alreadyCorrect := by simp [correct, needs, other]
  decryptFailed := by simp [unreadable_of_needs needs]

/-- The key that is written is the one that was free. -/
theorem held_rewritten (found : pass.rows[id]? = some row) (typed : row.idType = some idType)
    (needs : neededKey aes crypto sha256 row = some (idType, newHash))
    (free : ¬ FirstClaims.Held (held pass.rows) (idType, newHash)) :
    held (pass.rows.set id { row with idNumberHash := some newHash }) =
      FirstClaims.takeAll (need aes crypto sha256 pass.rows) (held pass.rows) [id] :=
  (held_set found typed).trans
    (FirstClaims.take_free ((need_of_found found).trans needs) free).symm

/-- A row whose key is free. -/
theorem Outcome.rewritten (found : pass.rows[id]? = some row) (typed : row.idType = some idType)
    (needs : neededKey aes crypto sha256 row = some (idType, newHash))
    (other : heldKey row ≠ some (idType, newHash))
    (free : ¬ FirstClaims.Held (held pass.rows) (idType, newHash)) :
    Outcome aes crypto sha256 pass [(id, row)]
      { pass with
        rows := pass.rows.set id { row with idNumberHash := some newHash }
        rehashed := pass.rehashed + 1 } where
  rows := .set found typed
  keys := held_rewritten found typed needs free
  conflicts := by
    have mine : held (pass.rows.set id { row with idNumberHash := some newHash }) id =
        some (idType, newHash) := by rw [held_set found typed, Function.update_self]
    simp [conflictOf, needs, mine]
  rehashed := by
    simp [differs, needs, other]
    omega
  alreadyCorrect := by simp [correct, needs, other]
  decryptFailed := by simp [unreadable_of_needs needs]

theorem held_of_taken {rows : List KycVerification} (taken : taken id idType newHash rows = true) :
    FirstClaims.Held (held rows) (idType, newHash) := by
  obtain ⟨a, -, holds⟩ := taken_iff.mp taken
  exact ⟨a, holds⟩

theorem not_held_of_free (found : pass.rows[id]? = some row)
    (other : heldKey row ≠ some (idType, newHash))
    (free : taken id idType newHash pass.rows = false) :
    ¬ FirstClaims.Held (held pass.rows) (idType, newHash) := by
  rintro ⟨a, holds⟩
  by_cases same : a = id
  · subst same
    exact other ((held_of_found found).symm.trans holds)
  · have taken := taken_iff.mpr ⟨a, same, holds⟩
    rw [free] at taken
    cases taken

/-- One turn with every answer: it ends as an outcome says, or it throws, and then its row was
asked or was not. -/
theorem rehashRow_turn (answer : Nat → UpdateAnswer) (found : pass.rows[id]? = some row) :
    (∃ after, rehashRow aes crypto sha256 true answer (id, row) pass = (.ok (), after) ∧
        Outcome aes crypto sha256 pass [(id, row)] after) ∨
    answer id ≠ .served ∧ ∃ e after,
      rehashRow aes crypto sha256 true answer (id, row) pass = (.error e, after) ∧
      Rehashed pass.rows after.rows ∧ ∃ asked : List Nat, asked <+: [id] ∧
        held after.rows =
          FirstClaims.takeAll (need aes crypto sha256 pass.rows) (held pass.rows) asked := by
  unfold rehashRow
  dsimp only
  cases stored : row.encryptedIdNumber.filter (· ≠ "") with
  | none =>
    have unneeding : neededKey aes crypto sha256 row = none := by rw [neededKey, stored]; rfl
    exact .inl ⟨pass, rfl, .idle found unneeding rfl rfl rfl rfl (by simp only [unreadable, stored]; simp)⟩
  | some encrypted =>
  cases typed : row.idType with
  | none =>
    have unneeding : neededKey aes crypto sha256 row = none := by
      rw [neededKey, stored, typed]
      rfl
    exact .inl ⟨pass, rfl, .idle found unneeding rfl rfl rfl rfl (by simp [unreadable, typed])⟩
  | some idType =>
  dsimp only
  cases decrypted : crypto.decrypt aes encrypted with
  | none =>
    have unneeding : neededKey aes crypto sha256 row = none := by
      rw [neededKey, stored, typed, Option.bind_some, Option.bind_some, decrypted]
      rfl
    exact .inl ⟨_, rfl, .idle found unneeding rfl rfl rfl rfl
      (by simp only [unreadable, typed, stored]; simp [decrypted])⟩
  | some idNumber =>
  have needs : neededKey aes crypto sha256 row =
      some (idType, crypto.hashKycIdNumber sha256 idNumber) := by
    rw [neededKey, stored, typed, Option.bind_some, Option.bind_some, decrypted]
    rfl
  dsimp only
  generalize crypto.hashKycIdNumber sha256 idNumber = newHash at needs
  have key : heldKey row = some (idType, newHash) ↔ some newHash = row.idNumberHash :=
    heldKey_iff typed
  by_cases own : some newHash = row.idNumberHash
  · rw [if_pos own]
    exact .inl ⟨_, rfl, .own found needs (key.mpr own)⟩
  rw [if_neg own, Bool.not_true, if_neg Bool.false_ne_true]
  have other : heldKey row ≠ some (idType, newHash) := fun same => own (key.mp same)
  rcases updateHash_cases found typed (answer id) with ⟨failed, ended⟩ | ⟨taken, ended⟩ | ⟨free, ended⟩
  · rw [ended]
    exact .inr ⟨by simp [failed], _, _, rfl, Rehashed.refl _, [], List.nil_prefix, rfl⟩
  · rw [ended]
    exact .inl ⟨_, rfl, .refused found needs other (held_of_taken taken)⟩
  · have untaken := not_held_of_free found other free
    rw [ended]
    by_cases lost : answer id = .lost
    · rw [if_pos lost]
      exact .inr ⟨by simp [lost], _, _, rfl, .set found typed, [id], List.prefix_rfl,
        held_rewritten found typed needs untaken⟩
    · rw [if_neg lost]
      exact .inl ⟨_, rfl, .rewritten found typed needs other untaken⟩

theorem Outcome.append {before mid after : Pass} {first rest : List (Nat × KycVerification)}
    (left : Outcome aes crypto sha256 before first mid)
    (right : Outcome aes crypto sha256 mid rest after)
    (apart : ∀ row ∈ first, row.1 ∉ rest.map Prod.fst) :
    Outcome aes crypto sha256 before (first ++ rest) after where
  rows := left.rows.trans right.rows
  keys := by
    rw [right.keys, left.rows.need_eq, left.keys, List.map_append, FirstClaims.takeAll_append]
  conflicts := by
    have same : first.filterMap (conflictOf aes crypto sha256 mid.rows) =
        first.filterMap (conflictOf aes crypto sha256 after.rows) := by
      refine List.filterMap_congr fun row member => ?_
      rw [conflictOf, conflictOf, right.keys, FirstClaims.takeAll_other (.inl (apart row member))]
    rw [right.conflicts, left.conflicts, same, List.filterMap_append, List.append_assoc]
  rehashed := by
    have first := left.rehashed
    have rest := right.rehashed
    rw [List.countP_append]
    omega
  alreadyCorrect := by
    rw [right.alreadyCorrect, left.alreadyCorrect, List.countP_append, Nat.add_assoc]
  decryptFailed := by
    rw [right.decryptFailed, left.decryptFailed, List.countP_append, Nat.add_assoc]

/-- A loop ends as an outcome says, or it throws after some of its rows were asked. -/
theorem rehashEach_ends (answer : Nat → UpdateAnswer) {found : List (Nat × KycVerification)}
    (distinct : (found.map Prod.fst).Nodup) (read : ∀ row ∈ found, pass.rows[row.1]? = some row.2) :
    (∃ after, rehashEach aes crypto sha256 true answer found pass = (.ok (), after) ∧
        Outcome aes crypto sha256 pass found after) ∨
    (∃ row ∈ found, answer row.1 ≠ .served) ∧ ∃ e after,
      rehashEach aes crypto sha256 true answer found pass = (.error e, after) ∧
      Rehashed pass.rows after.rows ∧ ∃ asked, asked <+: found.map Prod.fst ∧ held after.rows =
        FirstClaims.takeAll (need aes crypto sha256 pass.rows) (held pass.rows) asked := by
  induction found generalizing pass with
  | nil =>
    exact .inl ⟨pass, rfl, .refl _, rfl, by simp, by simp, by simp, by simp⟩
  | cons row rest ih =>
    obtain ⟨id, row⟩ := row
    obtain ⟨fresh, distinct⟩ := List.nodup_cons.mp distinct
    obtain ⟨here, read⟩ := List.forall_mem_cons.mp read
    rw [rehashEach]
    rcases rehashRow_turn answer here with
      ⟨mid, turned, outcome⟩ | ⟨unserved, e, after, threw, rehashed, asked, some, keys⟩
    · rw [turned]
      have unread : ∀ row ∈ rest, mid.rows[row.1]? = some row.2 := by
        intro row member
        have other : row.1 ∉ [id] := fun same =>
          fresh (List.mem_map.mpr ⟨row, member, List.mem_singleton.mp same⟩)
        rw [outcome.rows.row_eq (by rw [outcome.keys]; exact FirstClaims.takeAll_other (.inl other)),
          read row member]
      rcases ih distinct unread with
        ⟨after, ended, later⟩ | ⟨⟨other, member, unserved⟩, e, after, threw, rehashed, asked, some, keys⟩
      · refine .inl ⟨after, ended, outcome.append later fun row same => ?_⟩
        rwa [List.mem_singleton.mp same]
      · refine .inr ⟨⟨other, List.mem_cons_of_mem _ member, unserved⟩, e, after, threw,
          outcome.rows.trans rehashed, id :: asked, List.cons_prefix_cons.mpr ⟨rfl, some⟩, ?_⟩
        rw [keys, outcome.rows.need_eq, outcome.keys]
        rfl
    · rw [threw]
      refine .inr ⟨⟨_, List.mem_cons_self .., unserved⟩, e, after, rfl, rehashed, asked, ?_, keys⟩
      exact some.trans (List.cons_prefix_cons.mpr ⟨rfl, List.nil_prefix⟩)

end Turns

section Passes
variable {aes : AesGcm} {crypto : CryptoService} {sha256 : Sha256} {answer : Nat → UpdateAnswer}
  {ties : Nat → Nat} {rows rows' : List KycVerification} {limit : Option Nat}

/-- The rows of a limited pass are the first ones of a full pass. -/
theorem scan_start (ties : Nat → Nat) (limit : Option Nat) (rows : List KycVerification) :
    scan ties limit rows <+: scan ties none rows := by
  cases limit with
  | none => exact List.prefix_rfl
  | some n => exact List.take_prefix n _

theorem scan_read : ∀ row ∈ scan ties limit rows, rows[row.1]? = some row.2 := by
  intro row member
  have found := List.mem_insertionSort _ |>.mp ((scan_start ties limit rows).subset member)
  exact (mem_findRows.mp found).1

theorem scan_distinct : ((scan ties limit rows).map Prod.fst).Nodup := by
  have ordered : ((scan ties none rows).map Prod.fst).Nodup := by
    have sorted := List.perm_insertionSort
      (scanOrder ties)
      (findRows rows fun row => row.idType.isSome && row.encryptedIdNumber.isSome)
    refine (sorted.map Prod.fst).nodup_iff.mpr ?_
    exact List.pairwise_map.mpr ((findRows_ordered _ _).imp fun before => Nat.ne_of_lt before)
  exact ordered.sublist ((scan_start ties limit rows).sublist.map _)

def unhashed (row : KycVerification) : KycVerification := { row with idNumberHash := none }

theorem Rehashed.unhashed_eq (rehashed : Rehashed rows rows') :
    rows'.map unhashed = rows.map unhashed := by
  refine List.ext_getElem? fun id => ?_
  rw [List.getElem?_map, List.getElem?_map]
  cases found : rows[id]? with
  | none =>
    rw [List.getElem?_eq_none_iff] at found
    rw [List.getElem?_eq_none_iff.mpr (rehashed.length ▸ found)]
  | some row =>
    obtain ⟨hash, found, -⟩ := rehashed.row id row found
    rw [found]
    rfl

theorem scan_map (rows : List KycVerification) :
    (scan ties none rows).map (fun row => (row.1, unhashed row.2)) = scan ties none (rows.map unhashed) := by
  have found : (findRows rows fun row => row.idType.isSome && row.encryptedIdNumber.isSome).map
      (fun row => (row.1, unhashed row.2)) = findRows (rows.map unhashed) fun row =>
        row.idType.isSome && row.encryptedIdNumber.isSome := by
    simp only [findRows, List.zipIdx_map, List.filter_map, List.map_map]
    rfl
  have moved := List.map_insertionSort (r := scanOrder ties) (s := scanOrder ties)
    (fun row => (row.1, unhashed row.2))
    (findRows rows fun row => row.idType.isSome && row.encryptedIdNumber.isSome)
    fun _ _ _ _ => Iff.rfl
  rwa [found] at moved

/-- A pass scans the same rows whatever became of their digests. -/
theorem scan_ids (rehashed : Rehashed rows rows') :
    (scan ties none rows').map Prod.fst = (scan ties none rows).map Prod.fst := by
  have ids (rows : List KycVerification) :
      (scan ties none rows).map Prod.fst = (scan ties none (rows.map unhashed)).map Prod.fst := by
    rw [← scan_map, List.map_map]
    rfl
  rw [ids rows', ids rows, rehashed.unhashed_eq]

theorem main_served (served : ∀ id, answer id = .served) (limit : Option Nat)
    (rows : List KycVerification) :
    ∃ after, main aes crypto sha256 ties true limit answer rows = (.ok (), after) ∧
      Outcome aes crypto sha256 { rows, scanned := (scan ties limit rows).length } (scan ties limit rows)
        after := by
  rcases @rehashEach_ends aes crypto sha256 { rows, scanned := (scan ties limit rows).length } answer _
    scan_distinct scan_read with
    ended | ⟨⟨row, -, unserved⟩, -⟩
  · exact ended
  · exact absurd (served row.1) unserved

/-- However a pass ends, the first so many of its rows were asked for their keys. -/
theorem main_stopped (answer : Nat → UpdateAnswer) (limit : Option Nat)
    (rows : List KycVerification) :
    Rehashed rows (main aes crypto sha256 ties true limit answer rows).2.rows ∧
    ∃ asked, asked <+: (scan ties none rows).map Prod.fst ∧
      held (main aes crypto sha256 ties true limit answer rows).2.rows =
        FirstClaims.takeAll (need aes crypto sha256 rows) (held rows) asked := by
  have whole := (scan_start ties limit rows).map Prod.fst
  rcases @rehashEach_ends aes crypto sha256 { rows, scanned := (scan ties limit rows).length } answer _
    scan_distinct scan_read with
    ⟨after, ended, outcome⟩ | ⟨-, e, after, ended, rehashed, asked, some, keys⟩
  · rw [main, ended]
    exact ⟨outcome.rows, _, whole, outcome.keys⟩
  · rw [main, ended]
    exact ⟨rehashed, asked, some.trans whole, keys⟩

/-- A pass leaves every digest as it was or gives it the value that is due. Where a number has
several rows, one of them has its digest in the end: the one that had it before, or else the
oldest; the others are reported, each with somebody else who has it. -/
theorem backfill_settles (fresh : FirstClaims.Fresh (need aes crypto sha256 rows) (held rows))
    (exclusive : FirstClaims.Exclusive (held rows)) (served : ∀ id, answer id = .served) :
    ∃ after, main aes crypto sha256 ties true limit answer rows = (.ok (), after) ∧
      Rehashed rows after.rows ∧ FirstClaims.Exclusive (held after.rows) ∧
      (∀ id, id ∉ (scan ties limit rows).map Prod.fst → after.rows[id]? = rows[id]?) ∧
      ∀ id row, (id, row) ∈ scan ties limit rows →
        (neededKey aes crypto sha256 row = none → after.rows[id]? = some row) ∧
        ∀ key, neededKey aes crypto sha256 row = some key →
          held after.rows id = some key ∨
          after.rows[id]? = some row ∧ ⟨id, row.userId, key.1⟩ ∈ after.conflicts ∧
            ∃ other, other ≠ id ∧ held after.rows other = some key ∧
              (held rows other = some key ∨ need aes crypto sha256 rows other = some key ∧
                [other, id].Sublist ((scan ties limit rows).map Prod.fst)) := by
  obtain ⟨after, ended, outcome⟩ := @main_served aes crypto sha256 answer ties served limit rows
  refine ⟨after, ended, outcome.rows, ?_, ?_, ?_⟩
  · rw [outcome.keys]
    exact FirstClaims.takeAll_exclusive exclusive _
  · intro id absent
    exact outcome.rows.row_eq (by rw [outcome.keys]; exact FirstClaims.takeAll_other (.inl absent))
  intro id row member
  have found := scan_read (id, row) member
  have wants : need aes crypto sha256 rows id = neededKey aes crypto sha256 row := by
    rw [need, found, Option.bind_some]
  constructor
  · intro unneeding
    have kept : held after.rows id = held rows id := by
      rw [outcome.keys]
      exact FirstClaims.takeAll_other (.inr (wants.trans unneeding))
    exact (outcome.rows.row_eq kept).trans found
  · intro key needs
    have asked : id ∈ (scan ties limit rows).map Prod.fst := List.mem_map.mpr ⟨_, member, rfl⟩
    have settled := FirstClaims.takeAll_holder fresh scan_distinct asked (wants.trans needs)
    rw [← outcome.keys] at settled
    by_cases got : held after.rows id = some key
    · exact .inl got
    obtain ⟨kept, other⟩ := settled.resolve_left got
    refine .inr ⟨(outcome.rows.row_eq kept).trans found, ?_, other⟩
    rw [outcome.conflicts, List.mem_append, List.mem_filterMap]
    exact .inr ⟨_, member, by rw [conflictOf, needs, Option.bind_some, if_neg got]⟩

/-- The rows that are scanned again are reported as before. -/
theorem conflicts_again (rehashed : Rehashed rows rows') (final : List KycVerification) :
    (scan ties none rows').filterMap (conflictOf aes crypto sha256 final) =
      (scan ties none rows).filterMap (conflictOf aes crypto sha256 final) := by
  have unread (rows : List KycVerification) :
      (scan ties none rows).filterMap (conflictOf aes crypto sha256 final) =
        (scan ties none (rows.map unhashed)).filterMap (conflictOf aes crypto sha256 final) := by
    rw [← scan_map, List.filterMap_map]
    rfl
  rw [unread rows', unread rows, rehashed.unhashed_eq]

theorem resumed (fresh : FirstClaims.Fresh (need aes crypto sha256 rows) (held rows))
    (served : ∀ id, answer id = .served) (limit : Option Nat) (stops : Nat → UpdateAnswer) :
    ∃ once again, main aes crypto sha256 ties true none answer rows = (.ok (), once) ∧
      main aes crypto sha256 ties true none answer
        (main aes crypto sha256 ties true limit stops rows).2.rows = (.ok (), again) ∧
      again.rows = once.rows ∧ again.conflicts = once.conflicts := by
  obtain ⟨rehashed, asked, ⟨rest, split⟩, keys⟩ :=
    @main_stopped aes crypto sha256 ties stops limit rows
  generalize (main aes crypto sha256 ties true limit stops rows).2.rows = stopped at rehashed keys ⊢
  obtain ⟨once, ended, outcome⟩ := @main_served aes crypto sha256 answer ties served none rows
  obtain ⟨again, ended', outcome'⟩ := @main_served aes crypto sha256 answer ties served none stopped
  have same : again.rows = once.rows := by
    refine (rehashed.trans outcome'.rows).eq_of_held outcome.rows ?_
    rw [outcome'.keys, outcome.keys, rehashed.need_eq, scan_ids rehashed, keys, ← split]
    exact FirstClaims.takeAll_resume fresh asked rest
  refine ⟨once, again, ended, ended', same, ?_⟩
  rw [outcome'.conflicts, outcome.conflicts, same, conflicts_again rehashed]

/-- What is reported in the end are the rows that differ, when nothing was rewritten. -/
theorem countP_differs (rows : List KycVerification) :
    (scan ties none rows).countP (differs aes crypto sha256) =
      ((scan ties none rows).filterMap (conflictOf aes crypto sha256 rows)).length := by
  rw [List.length_filterMap_eq_countP]
  refine List.countP_congr fun row member => ?_
  have here : held rows row.1 = heldKey row.2 := by
    rw [held, scan_read row member, Option.bind_some]
  rw [differs, conflictOf, here]
  cases neededKey aes crypto sha256 row.2 with
  | none => simp
  | some key => by_cases same : heldKey row.2 = some key <;> simp [same]

/-- A pass that was limited, or stopped by what an update was answered, and is followed by a
full pass, leaves what the full pass alone leaves. A full pass after that rewrites nothing, and
reports the same rows. -/
theorem backfill_resumes (fresh : FirstClaims.Fresh (need aes crypto sha256 rows) (held rows))
    (served : ∀ id, answer id = .served) (limit : Option Nat) (stops : Nat → UpdateAnswer) :
    ∃ once again more, main aes crypto sha256 ties true none answer rows = (.ok (), once) ∧
      main aes crypto sha256 ties true none answer
        (main aes crypto sha256 ties true limit stops rows).2.rows = (.ok (), again) ∧
      main aes crypto sha256 ties true none answer again.rows = (.ok (), more) ∧
      again.rows = once.rows ∧ again.conflicts = once.conflicts ∧
      more.rows = once.rows ∧ more.conflicts = once.conflicts ∧ more.rehashed = 0 := by
  obtain ⟨once, again, ended, resumed', same, conflicts⟩ := resumed fresh served limit stops
  obtain ⟨_, more, ended', repeated, same', conflicts'⟩ := resumed fresh served none answer
  obtain rfl := (Prod.mk.inj (ended.symm.trans ended')).2
  rw [ended, ← same] at repeated
  obtain ⟨final, rerun, outcome⟩ := @main_served aes crypto sha256 answer ties served none again.rows
  obtain rfl := (Prod.mk.inj (repeated.symm.trans rerun)).2
  refine ⟨once, again, more, ended, resumed', repeated, same, conflicts, same', conflicts', ?_⟩
  have rewritten := outcome.rehashed
  have reported := congrArg List.length outcome.conflicts
  dsimp only at rewritten reported
  rw [same', ← same, List.nil_append, ← countP_differs] at reported
  simp only [List.length_nil] at rewritten
  omega

theorem rehashRow_dry (row : Nat × KycVerification) (pass : Pass) :
    rehashRow aes crypto sha256 false answer row pass = (.ok (), { pass with
      rehashed := pass.rehashed + if differs aes crypto sha256 row then 1 else 0
      alreadyCorrect := pass.alreadyCorrect + if correct aes crypto sha256 row then 1 else 0
      decryptFailed := pass.decryptFailed + if unreadable aes crypto row then 1 else 0 }) := by
  unfold rehashRow differs correct neededKey
  cases stored : row.2.encryptedIdNumber.filter (· ≠ "") with
  | none =>
    have readable : unreadable aes crypto row = false := by
      rw [unreadable, stored, Option.any_none, Bool.and_false]
    simp [readable]
  | some encrypted =>
  cases typed : row.2.idType with
  | none => simp [unreadable, typed]
  | some idType =>
  cases decrypted : crypto.decrypt aes encrypted with
  | none =>
    have unread : unreadable aes crypto row = true := by
      rw [unreadable, typed, stored, Option.any_some, decrypted]
      rfl
    simp [decrypted, unread]
  | some idNumber =>
    have readable : unreadable aes crypto row = false := by
      rw [unreadable, typed, stored, Option.any_some, decrypted]
      rfl
    by_cases own : some (crypto.hashKycIdNumber sha256 idNumber) = row.2.idNumberHash
    · simp [decrypted, readable, own, (heldKey_iff typed).mpr own]
    · have other : heldKey row.2 ≠ some (idType, crypto.hashKycIdNumber sha256 idNumber) :=
        fun same => own ((heldKey_iff typed).mp same)
      simp [decrypted, readable, own, other]

theorem rehashEach_dry (found : List (Nat × KycVerification)) (pass : Pass) :
    rehashEach aes crypto sha256 false answer found pass = (.ok (), { pass with
      rehashed := pass.rehashed + found.countP (differs aes crypto sha256)
      alreadyCorrect := pass.alreadyCorrect + found.countP (correct aes crypto sha256)
      decryptFailed := pass.decryptFailed + found.countP (unreadable aes crypto) }) := by
  induction found generalizing pass with
  | nil => rfl
  | cons row rest ih =>
    rw [rehashEach, rehashRow_dry]
    dsimp only
    rw [ih]
    simp only [List.countP_cons, Nat.add_comm, Nat.add_left_comm]

/-- A dry run changes nothing, and announces the rows that the run itself rewrites or reports. -/
theorem dry_run_announces (served : ∀ id, answer id = .served) (limit : Option Nat)
    (rows : List KycVerification) :
    ∃ dry after, main aes crypto sha256 ties false limit answer rows = (.ok (), dry) ∧
      main aes crypto sha256 ties true limit answer rows = (.ok (), after) ∧
      dry.rows = rows ∧ dry.conflicts = [] ∧
      dry.rehashed = after.rehashed + after.conflicts.length ∧
      dry.alreadyCorrect = after.alreadyCorrect ∧ dry.decryptFailed = after.decryptFailed := by
  obtain ⟨after, ended, outcome⟩ := @main_served aes crypto sha256 answer ties served limit rows
  refine ⟨_, after, rehashEach_dry _ _, ended, rfl, rfl, ?_, ?_, ?_⟩
  · rw [outcome.rehashed]
    rfl
  · rw [outcome.alreadyCorrect]
  · rw [outcome.decryptFailed]

end Passes

open CryptoService (sampleAes sampleService sampleNumber sampleColumn)

/-- The digest of the number under the pepper, and nothing in particular for other texts. -/
def sampleSha256 (text : String) : String :=
  if text = sampleService.kycIdPepper ++ sampleNumber then
    "ea271573b980c47eadd56aa4519dabf051f81b6f9876330e1371bf972c2dcfd0"
  else text

def salted (userId : Nat) (hash : String) : KycVerification where
  userId := userId
  idType := some .bvn
  idNumberHash := some hash
  encryptedIdNumber := some sampleColumn
  createdAt := userId

def twoUsers : List KycVerification := [salted 0 "salt 0", salted 1 "salt 1"]

theorem twoUsers_need (id : Nat) (key : KycIdType × String)
    (needs : need sampleAes sampleService sampleSha256 twoUsers id = some key) :
    key = (.bvn, "ea271573b980c47eadd56aa4519dabf051f81b6f9876330e1371bf972c2dcfd0") := by
  obtain ⟨row, found, needs⟩ := Option.bind_eq_some_iff.mp needs
  have each : ∀ row ∈ twoUsers, neededKey sampleAes sampleService sampleSha256 row =
      some (.bvn, "ea271573b980c47eadd56aa4519dabf051f81b6f9876330e1371bf972c2dcfd0") := by
    decide +kernel
  exact Option.some.inj (needs.symm.trans (each row (List.mem_of_getElem? found)))

theorem twoUsers_held (id : Nat) (key : KycIdType × String) (holds : held twoUsers id = some key) :
    id < 2 ∧ key = (.bvn, "salt " ++ toString id) := by
  obtain ⟨row, found, key'⟩ := Option.bind_eq_some_iff.mp holds
  have bound : id < 2 := (List.getElem?_eq_some_iff.mp found).1
  have each : ∀ id < 2, held twoUsers id = some (.bvn, "salt " ++ toString id) := by decide +kernel
  exact ⟨bound, Option.some.inj (holds.symm.trans (each id bound))⟩

theorem twoUsers_fresh :
    FirstClaims.Fresh (need sampleAes sampleService sampleSha256 twoUsers) (held twoUsers) := by
  intro i j key needs holds
  have due := twoUsers_need i key needs
  obtain ⟨bound, salt⟩ := twoUsers_held j key holds
  have other : ∀ j < 2, (KycIdType.bvn, "salt " ++ toString j) ≠
      (.bvn, "ea271573b980c47eadd56aa4519dabf051f81b6f9876330e1371bf972c2dcfd0") := by decide +kernel
  exact absurd (salt.symm.trans due) (other j bound)

theorem twoUsers_exclusive : FirstClaims.Exclusive (held twoUsers) := by
  intro i j key here there
  obtain ⟨bound, same⟩ := twoUsers_held i key here
  obtain ⟨bound', same'⟩ := twoUsers_held j key there
  have distinct : ∀ i < 2, ∀ j < 2, (KycIdType.bvn, "salt " ++ toString i) =
      (.bvn, "salt " ++ toString j) → i = j := by decide +kernel
  exact distinct i bound j bound' (same.symm.trans same')

/-- The older row gets the digest, the other one is reported. -/
theorem backfill_settles_sample : ∃ after,
    main sampleAes sampleService sampleSha256 id true none (fun _ => .served) twoUsers =
      (.ok (), after) ∧
    after.conflicts = [⟨1, 1, .bvn⟩] ∧ exitCode after = 1 ∧
    FirstClaims.Exclusive (held after.rows) := by
  have ran : (main sampleAes sampleService sampleSha256 id true none (fun _ => .served) twoUsers).2.conflicts =
      [⟨1, 1, .bvn⟩] ∧ exitCode (main sampleAes sampleService sampleSha256 id true none
        (fun _ => .served) twoUsers).2 = 1 := by decide +kernel
  obtain ⟨after, ended, -, exclusive, -⟩ := @backfill_settles sampleAes sampleService sampleSha256
    (fun _ => .served) id twoUsers none twoUsers_fresh twoUsers_exclusive fun _ => rfl
  rw [ended] at ran
  exact ⟨after, ended, ran.1, ran.2, exclusive⟩

/-- The pass is stopped when the answer to its first update is lost. -/
theorem backfill_resumes_sample : ∃ once again more,
    main sampleAes sampleService sampleSha256 id true none (fun _ => .served) twoUsers =
      (.ok (), once) ∧
    main sampleAes sampleService sampleSha256 id true none (fun _ => .served)
      (main sampleAes sampleService sampleSha256 id true none (fun _ => .lost) twoUsers).2.rows =
      (.ok (), again) ∧
    main sampleAes sampleService sampleSha256 id true none (fun _ => .served) again.rows =
      (.ok (), more) ∧
    again.rows = once.rows ∧ again.conflicts = once.conflicts ∧
    more.rows = once.rows ∧ more.conflicts = once.conflicts ∧ more.rehashed = 0 :=
  backfill_resumes twoUsers_fresh (fun _ => rfl) none fun _ => .lost

theorem dry_run_announces_sample : ∃ dry after,
    main sampleAes sampleService sampleSha256 id false none (fun _ => .served) twoUsers =
      (.ok (), dry) ∧
    main sampleAes sampleService sampleSha256 id true none (fun _ => .served) twoUsers =
      (.ok (), after) ∧
    dry.rows = twoUsers ∧ dry.conflicts = [] ∧
    dry.rehashed = after.rehashed + after.conflicts.length ∧
    dry.alreadyCorrect = after.alreadyCorrect ∧ dry.decryptFailed = after.decryptFailed :=
  dry_run_announces (fun _ => rfl) none twoUsers

end Bitmonie.RehashKyc
