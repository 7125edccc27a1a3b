import Bitmonie.KeyValueText
import Mathlib.Data.List.Lex
import Mathlib.Data.List.Sort

/-! What PalmPay signs: the fields of a collection notification, sorted and joined as
`key=value&…` with no escapes. The hash and the RSA check of that text are a parameter, and
so are the numbers of JSON with the text `String` gives them. -/
namespace Bitmonie.PalmpayProvider
open KeyValueText

/-- A value of the parsed body. An array or an object is known by what `String` makes of it. -/
inductive JsonValue (N : Type) where
  | null
  | bool (value : Bool)
  | number (value : N)
  | string (value : String)
  | composite (text : String)
  deriving DecidableEq

section Payload
variable {N : Type}

/-- `String(value)` -/
def JsonValue.text (numberText : N → String) : JsonValue N → String
  | .null => "null"
  | .bool value => if value then "true" else "false"
  | .number value => numberText value
  | .string value => value
  | .composite text => text

/-- Null and the empty string are not signed. -/
def JsonValue.unsigned : JsonValue N → Bool
  | .null => true
  | .string value => value = ""
  | _ => false

/-- The parsed body: an object has each key once. -/
structure Params (N : Type) where
  fields : List (String × JsonValue N)
  unique : (fields.map Prod.fst).Nodup

def Params.get (params : Params N) (key : String) : Option (JsonValue N) :=
  (params.fields.find? fun field => field.1 = key).map Prod.snd

theorem get_eq_some {params : Params N} {key : String} {value : JsonValue N} :
    params.get key = some value ↔ (key, value) ∈ params.fields := by
  obtain ⟨fields, unique⟩ := params
  simp only [Params.get]
  induction fields with
  | nil => simp
  | cons field rest ih =>
    obtain ⟨fresh, unique⟩ := List.nodup_cons.mp unique
    rw [List.find?_cons, List.mem_cons]
    by_cases here : field.1 = key
    · subst here
      have later : (field.1, value) ∉ rest := fun member =>
        fresh (List.mem_map.mpr ⟨_, member, rfl⟩)
      simp [later, Prod.ext_iff, eq_comm]
    · simp [here, ih unique, Prod.ext_iff, Ne.symm here]

/-- `PalmpayCollectionNotificationSchema`; keys it does not name are dropped. -/
structure PalmpayCollectionNotification (N : Type) where
  orderNo : String
  orderStatus : N
  createdTime : N
  updateTime : N
  currency : String
  orderAmount : N
  reference : Option String
  payerAccountNo : String
  payerAccountName : String
  payerBankName : String
  virtualAccountNo : Option String
  virtualAccountName : Option String
  accountReference : Option String
  sessionId : Option String
  appId : Option String
  sign : Option String
  deriving DecidableEq

def stringField (params : Params N) (key : String) : Option String :=
  match params.get key with
  | some (.string value) => some value
  | _ => none

def numberField (params : Params N) (key : String) : Option N :=
  match params.get key with
  | some (.number value) => some value
  | _ => none

/-- The key may be missing, but null is refused. -/
def optionalString (params : Params N) (key : String) : Option (Option String) :=
  match params.get key with
  | none => some none
  | some (.string value) => some (some value)
  | _ => none

def parseCollection (params : Params N) : Option (PalmpayCollectionNotification N) := do
  let orderNo ← stringField params "orderNo"
  let orderStatus ← numberField params "orderStatus"
  let createdTime ← numberField params "createdTime"
  let updateTime ← numberField params "updateTime"
  let currency ← stringField params "currency"
  let orderAmount ← numberField params "orderAmount"
  let reference ← optionalString params "reference"
  let payerAccountNo ← stringField params "payerAccountNo"
  let payerAccountName ← stringField params "payerAccountName"
  let payerBankName ← stringField params "payerBankName"
  let virtualAccountNo ← optionalString params "virtualAccountNo"
  let virtualAccountName ← optionalString params "virtualAccountName"
  let accountReference ← optionalString params "accountReference"
  let sessionId ← optionalString params "sessionId"
  let appId ← optionalString params "appId"
  let sign ← optionalString params "sign"
  return {
    orderNo, orderStatus, createdTime, updateTime, currency, orderAmount, reference,
    payerAccountNo, payerAccountName, payerBankName, virtualAccountNo, virtualAccountName,
    accountReference, sessionId, appId, sign }

def utf16 (c : Char) : List Nat :=
  if c.toNat < 0x10000 then [c.toNat]
  else [0xD800 + (c.toNat - 0x10000) / 0x400, 0xDC00 + (c.toNat - 0x10000) % 0x400]

/-- Strings are ordered by their code units. -/
def codeUnits (s : String) : List Nat := s.toList.flatMap utf16

def signedFields (params : Params N) : List (String × JsonValue N) :=
  (params.fields.filter fun field => field.1 ≠ "sign" ∧ field.2.unsigned = false).insertionSort
    fun a b => codeUnits a.1 ≤ codeUnits b.1

def sorted (numberText : N → String) (params : Params N) : String :=
  "&".intercalate ((signedFields params).map fun field => field.1 ++ "=" ++ field.2.text numberText)

/-- `rsaVerify` hashes the text and checks the decoded signature with the loaded key. -/
def verifyWebhookSign (rsaVerify : String → String → Bool) (numberText : N → String)
    (params : Params N) (signature : String) : Bool :=
  rsaVerify (sorted numberText params) signature

def verifyWebhookSignature (rsaVerify : String → String → Bool) (allowUnsignedWebhooks : Bool)
    (numberText : N → String) (params : Params N) : Bool :=
  match params.get "sign" with
  | none | some .null => allowUnsignedWebhooks
  | some (.string sign) => verifyWebhookSign rsaVerify numberText params sign
  | some _ => false

/-- No `=` after a `&`. -/
def plainText (text : String) : Bool := (text.toList.dropWhile (· ≠ '&')).all (· ≠ '=')

/-- No key and no value reads as two fields. -/
def Params.Plain (numberText : N → String) (params : Params N) : Prop :=
  ∀ field ∈ signedFields params, '&' ∉ field.1.toList ∧ '=' ∉ field.1.toList ∧
    plainText (field.2.text numberText) = true

theorem plainText_value {text : String} (plain : plainText text = true) {before after : List Char}
    (split : text.toList = before ++ '&' :: after) : '=' ∉ after := by
  have dropped : ∀ c ∈ text.toList.dropWhile (· ≠ '&'), c ≠ '=' := by
    simpa [plainText, List.all_eq_true] using plain
  have rest : ∀ before, '&' :: after <:+ (before ++ '&' :: after).dropWhile (· ≠ '&') := by
    intro before
    induction before with
    | nil => simp
    | cons c before ih =>
      rw [List.cons_append, List.dropWhile_cons]
      split
      · exact ih
      · exact List.suffix_append (c :: before) _
  intro member
  exact dropped '=' ((split ▸ rest before).subset (List.mem_cons_of_mem _ member)) rfl

def signedTexts (numberText : N → String) (params : Params N) : List (String × String) :=
  (signedFields params).map fun field => (field.1, field.2.text numberText)

def listEntry (field : String × String) : Entry Char := (field.1.toList, field.2.toList)

theorem sorted_toList (numberText : N → String) (params : Params N) :
    (sorted numberText params).toList =
      encode '&' '=' ((signedTexts numberText params).map listEntry) := by
  simp [sorted, signedTexts, encode, entryText, listEntry, String.toList_intercalate,
    Function.comp_def]

theorem entries_plain {numberText : N → String} {params : Params N}
    (plain : params.Plain numberText) :
    ∀ e ∈ (signedTexts numberText params).map listEntry, KeyValueText.Plain '&' '=' e := by
  intro e member
  obtain ⟨_, among, rfl⟩ := List.mem_map.mp member
  obtain ⟨field, signed, rfl⟩ := List.mem_map.mp among
  obtain ⟨amp, eq, value⟩ := plain field signed
  exact ⟨amp, eq, fun before after split => plainText_value value split⟩

theorem signedTexts_eq {numberText : N → String} {params params' : Params N}
    (plain : params.Plain numberText) (plain' : params'.Plain numberText)
    (same : sorted numberText params = sorted numberText params') :
    signedTexts numberText params = signedTexts numberText params' := by
  have injective : Function.Injective listEntry := by
    rintro ⟨key, text⟩ ⟨key', text'⟩ equal
    obtain ⟨keys, texts⟩ := Prod.mk.inj equal
    exact Prod.ext (String.toList_injective keys) (String.toList_injective texts)
  apply List.map_injective_iff.mpr injective
  apply encode_injective (by decide) (entries_plain plain) (entries_plain plain')
  rw [← sorted_toList, ← sorted_toList, same]

/-- A field with this text is signed. -/
theorem mem_signedTexts {numberText : N → String} {params : Params N} {key text : String}
    (other : key ≠ "sign") : (key, text) ∈ signedTexts numberText params ↔
      ∃ value, params.get key = some value ∧ value.unsigned = false ∧
        value.text numberText = text := by
  simp only [signedTexts, signedFields, List.mem_map, Prod.mk.injEq, Prod.exists,
    (List.perm_insertionSort _ _).mem_iff, List.mem_filter, get_eq_some]
  constructor
  · rintro ⟨key, value, ⟨member, signed⟩, rfl, rfl⟩
    exact ⟨value, member, by simpa [other] using signed, rfl⟩
  · rintro ⟨value, member, signed, rfl⟩
    exact ⟨key, value, ⟨member, by simpa [other] using signed⟩, rfl, rfl⟩

theorem mem_signedTexts_string {numberText : N → String} {params : Params N} {key text : String}
    {value : Option String} (other : key ≠ "sign")
    (read : optionalString params key = some value) :
    (key, text) ∈ signedTexts numberText params ↔ value = some text ∧ text ≠ "" := by
  rw [mem_signedTexts other]
  unfold optionalString at read
  split at read
  · rename_i missing
    obtain rfl := Option.some.inj read
    simp [missing]
  · rename_i present
    obtain rfl := Option.some.inj read
    constructor
    · rintro ⟨value, found, signed, rfl⟩
      obtain rfl := Option.some.inj (present.symm.trans found)
      exact ⟨rfl, by simpa [JsonValue.unsigned, JsonValue.text] using signed⟩
    · rintro ⟨same, signed⟩
      obtain rfl := Option.some.inj same
      exact ⟨_, present, by simpa [JsonValue.unsigned] using signed, rfl⟩
  · cases read

/-- An optional string is determined: a missing one reads as an empty one. -/
theorem optionalString_eq {numberText : N → String} {params params' : Params N} {key : String}
    (other : key ≠ "sign")
    (texts : signedTexts numberText params = signedTexts numberText params')
    {value value' : Option String} (read : optionalString params key = some value)
    (read' : optionalString params' key = some value') : value.getD "" = value'.getD "" := by
  have same (text : String) : value = some text ∧ text ≠ "" ↔ value' = some text ∧ text ≠ "" := by
    rw [← @mem_signedTexts_string N numberText params key text value other read, texts,
      mem_signedTexts_string other read']
  have given (field : Option String) {text : String} (signed : text ≠ "") :
      field.getD "" = text ↔ field = some text := by
    cases field <;> simp [Ne.symm signed]
  by_cases empty : value.getD "" = ""
  · by_contra differ
    have signed : value'.getD "" ≠ "" := fun empty' => differ (empty.trans empty'.symm)
    have stored := (same _).mpr ⟨(given value' signed).mp rfl, signed⟩
    exact differ ((given value signed).mpr stored.1)
  · have stored := (same _).mp ⟨(given value empty).mp rfl, empty⟩
    exact ((given value' empty).mpr stored.1).symm

theorem stringField_eq {numberText : N → String} {params params' : Params N} {key : String}
    (other : key ≠ "sign")
    (texts : signedTexts numberText params = signedTexts numberText params')
    {value value' : String} (read : stringField params key = some value)
    (read' : stringField params' key = some value') : value = value' := by
  have optional {params : Params N} {value : String} (read : stringField params key = some value) :
      optionalString params key = some (some value) := by
    unfold stringField at read
    unfold optionalString
    split at read
    · rename_i present
      rw [present, ← read]
    · cases read
  exact optionalString_eq other texts (optional read) (optional read')

theorem numberField_eq {numberText : N → String} (injective : Function.Injective numberText)
    {params params' : Params N} {key : String} (other : key ≠ "sign")
    (texts : signedTexts numberText params = signedTexts numberText params')
    {value value' : N} (read : numberField params key = some value)
    (read' : numberField params' key = some value') : value = value' := by
  have number {params : Params N} {value : N} (read : numberField params key = some value) :
      params.get key = some (.number value) := by
    unfold numberField at read
    split at read
    · rename_i present
      rw [present, Option.some.inj read]
    · cases read
  have signed : (key, numberText value) ∈ signedTexts numberText params :=
    (mem_signedTexts other).mpr ⟨_, number read, rfl, rfl⟩
  obtain ⟨stored, found, -, text⟩ := (mem_signedTexts other).mp (texts ▸ signed)
  obtain rfl := Option.some.inj ((number read').symm.trans found)
  exact injective text.symm

theorem parseCollection_money {params : Params N} {payload : PalmpayCollectionNotification N}
    (accepted : parseCollection params = some payload) :
    stringField params "orderNo" = some payload.orderNo ∧
      numberField params "orderStatus" = some payload.orderStatus ∧
      numberField params "orderAmount" = some payload.orderAmount ∧
      optionalString params "virtualAccountNo" = some payload.virtualAccountNo := by
  obtain ⟨_, orderNo, rest⟩ := Option.bind_eq_some_iff.mp accepted
  obtain ⟨_, orderStatus, rest⟩ := Option.bind_eq_some_iff.mp rest
  obtain ⟨_, _, rest⟩ := Option.bind_eq_some_iff.mp rest
  obtain ⟨_, _, rest⟩ := Option.bind_eq_some_iff.mp rest
  obtain ⟨_, _, rest⟩ := Option.bind_eq_some_iff.mp rest
  obtain ⟨_, orderAmount, rest⟩ := Option.bind_eq_some_iff.mp rest
  obtain ⟨_, _, rest⟩ := Option.bind_eq_some_iff.mp rest
  obtain ⟨_, _, rest⟩ := Option.bind_eq_some_iff.mp rest
  obtain ⟨_, _, rest⟩ := Option.bind_eq_some_iff.mp rest
  obtain ⟨_, _, rest⟩ := Option.bind_eq_some_iff.mp rest
  obtain ⟨_, virtualAccountNo, rest⟩ := Option.bind_eq_some_iff.mp rest
  obtain ⟨_, _, rest⟩ := Option.bind_eq_some_iff.mp rest
  obtain ⟨_, _, rest⟩ := Option.bind_eq_some_iff.mp rest
  obtain ⟨_, _, rest⟩ := Option.bind_eq_some_iff.mp rest
  obtain ⟨_, _, rest⟩ := Option.bind_eq_some_iff.mp rest
  obtain ⟨_, _, rest⟩ := Option.bind_eq_some_iff.mp rest
  obtain rfl := Option.some.inj rest
  exact ⟨orderNo, orderStatus, orderAmount, virtualAccountNo⟩

/-- Plain payloads with one signed text agree on the order, its status, its amount and its
account. -/
theorem money_fields_signed {numberText : N → String} (injective : Function.Injective numberText)
    {params params' : Params N} {payload payload' : PalmpayCollectionNotification N}
    (accepted : parseCollection params = some payload)
    (accepted' : parseCollection params' = some payload')
    (plain : params.Plain numberText) (plain' : params'.Plain numberText)
    (same : sorted numberText params = sorted numberText params') :
    payload.orderNo = payload'.orderNo ∧ payload.orderStatus = payload'.orderStatus ∧
      payload.orderAmount = payload'.orderAmount ∧
      payload.virtualAccountNo.getD "" = payload'.virtualAccountNo.getD "" := by
  have texts := signedTexts_eq plain plain' same
  obtain ⟨orderNo, orderStatus, orderAmount, account⟩ := parseCollection_money accepted
  obtain ⟨orderNo', orderStatus', orderAmount', account'⟩ := parseCollection_money accepted'
  exact ⟨stringField_eq (by decide) texts orderNo orderNo',
    numberField_eq injective (by decide) texts orderStatus orderStatus',
    numberField_eq injective (by decide) texts orderAmount orderAmount',
    optionalString_eq (by decide) texts account account'⟩

/-- The signature of a payload is valid for every payload with its text. -/
theorem verifyWebhookSignature_eq (rsaVerify : String → String → Bool)
    (allowUnsignedWebhooks : Bool) {numberText : N → String} {params params' : Params N}
    (signature : params.get "sign" = params'.get "sign")
    (same : sorted numberText params = sorted numberText params') :
    verifyWebhookSignature rsaVerify allowUnsignedWebhooks numberText params =
      verifyWebhookSignature rsaVerify allowUnsignedWebhooks numberText params' := by
  simp only [verifyWebhookSignature, verifyWebhookSign, signature, same]

end Payload

def digitText (n : Fin 10) : String := Nat.repr n

/-- A collection, but for the fields its payer has a say in. -/
def collection (currency orderNo payerAccountName : String) (orderAmount : Fin 10) :
    Params (Fin 10) where
  fields := [("orderNo", .string orderNo), ("orderStatus", .number 1), ("createdTime", .number 1),
    ("updateTime", .number 2), ("currency", .string currency),
    ("orderAmount", .number orderAmount), ("payerAccountNo", .string "0123456789"),
    ("payerAccountName", .string payerAccountName), ("payerBankName", .string "OPay"),
    ("virtualAccountNo", .string "0100000001"), ("sign", .string "c2lnbg%3D%3D")]
  unique := by simp

instance (params : Params (Fin 10)) (numberText : Fin 10 → String) :
    Decidable (params.Plain numberText) :=
  inferInstanceAs (Decidable (∀ field ∈ signedFields params, _))

def delivered : Params (Fin 10) := collection "NGN" "A" "Ada" 4

def redelivered : Params (Fin 10) where
  fields := ("appId", .string "") :: delivered.fields
  unique := by simp [delivered, collection]

theorem money_fields_signed_redelivered : ∃ payload payload',
    parseCollection delivered = some payload ∧ parseCollection redelivered = some payload' ∧
    payload ≠ payload' ∧
    payload.orderNo = payload'.orderNo ∧ payload.orderStatus = payload'.orderStatus ∧
      payload.orderAmount = payload'.orderAmount ∧
      payload.virtualAccountNo.getD "" = payload'.virtualAccountNo.getD "" := by
  have injective : Function.Injective digitText := by
    intro a b
    revert a b
    decide +kernel
  have plain : delivered.Plain digitText := by decide +kernel
  have plain' : redelivered.Plain digitText := by decide +kernel
  have same : sorted digitText delivered = sorted digitText redelivered := by decide +kernel
  have differ : parseCollection delivered ≠ parseCollection redelivered := by decide +kernel
  cases accepted : parseCollection delivered with
  | none => exact absurd accepted (by decide +kernel)
  | some payload =>
    cases accepted' : parseCollection redelivered with
    | none => exact absurd accepted' (by decide +kernel)
    | some payload' =>
      rw [accepted, accepted'] at differ
      exact ⟨payload, payload', rfl, rfl, fun equal => differ (congrArg some equal),
        money_fields_signed injective accepted accepted' plain plain' same⟩

/-- The payer's name of the first payload holds the fields of the second one. -/
def named : Params (Fin 10) :=
  collection "NGN" "A" "Ada&orderAmount=9&orderNo=B&orderStatus=1&payerAccountName=Ada" 1

def forged : Params (Fin 10) :=
  collection "NGN&orderAmount=1&orderNo=A&orderStatus=1&payerAccountName=Ada" "B" "Ada" 9

theorem money_fields_forged : ∃ payload payload',
    parseCollection named = some payload ∧ parseCollection forged = some payload' ∧
    sorted digitText named = sorted digitText forged ∧
    payload.orderNo ≠ payload'.orderNo ∧ payload.orderAmount ≠ payload'.orderAmount ∧
    ∀ rsaVerify, verifyWebhookSignature rsaVerify false digitText named =
      verifyWebhookSignature rsaVerify false digitText forged := by
  have same : sorted digitText named = sorted digitText forged := by decide +kernel
  exact ⟨_, _, rfl, rfl, same, by decide, by decide, fun rsaVerify =>
    verifyWebhookSignature_eq rsaVerify false rfl same⟩

end Bitmonie.PalmpayProvider
