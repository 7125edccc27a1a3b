import Bitmonie.ByteText

/-! How personal data is encrypted at rest, and the digests of texts. A column holds the base64
of the initialisation vector, the authentication tag and the ciphertext. -/
namespace Bitmonie

/-- AES-256-GCM: the ciphertext with its tag, and the way back, which throws when the tag is not
that of the ciphertext. -/
structure AesGcm where
  cipher : (key iv plaintext : List UInt8) → List UInt8 × List UInt8
  decipher : (key iv authTag ciphertext : List UInt8) → Option (List UInt8)

structure AesGcm.Correct (aes : AesGcm) : Prop where
  authTag : ∀ key iv plaintext, (aes.cipher key iv plaintext).2.length = 16
  opens : ∀ key iv plaintext, key.length = 32 → iv.length = 12 →
    aes.decipher key iv (aes.cipher key iv plaintext).2 (aes.cipher key iv plaintext).1 =
      some plaintext

abbrev Sha256 := String → String

namespace CryptoService

def ivLength : Nat := 12
def authTagLength : Nat := 16

def hexDigit? (c : Char) : Option Nat :=
  if '0' ≤ c ∧ c ≤ '9' then some (c.toNat - '0'.toNat)
  else if 'a' ≤ c ∧ c ≤ 'f' then some (c.toNat - 'a'.toNat + 10)
  else if 'A' ≤ c ∧ c ≤ 'F' then some (c.toNat - 'A'.toNat + 10)
  else none

/-- `Buffer.from(hex, 'hex')`: the bytes before the first pair that is not two digits. -/
def hexBytes : List Char → List UInt8
  | high :: low :: rest =>
    match hexDigit? high, hexDigit? low with
    | some h, some l => UInt8.ofNat (h * 16 + l) :: hexBytes rest
    | _, _ => []
  | _ => []

end CryptoService

structure CryptoService where
  encryptionKey : List UInt8
  kycIdPepper : String
  keyLength : encryptionKey.length = 32
  deriving DecidableEq

namespace CryptoService

def onModuleInit (config : String → Option String) : Except String CryptoService :=
  match (config "ENCRYPTION_KEY").filter (· ≠ "") with
  | none => .error "ENCRYPTION_KEY is required"
  | some keyHex =>
    if keyLength : (hexBytes keyHex.toList).length = 32 then
      match (config "KYC_ID_HASH_PEPPER").filter (· ≠ "") with
      | none => .error "KYC_ID_HASH_PEPPER is required"
      | some pepperHex =>
        if (hexBytes pepperHex.toList).length = 32 then
          .ok { encryptionKey := hexBytes keyHex.toList, kycIdPepper := pepperHex, keyLength }
        else .error "KYC_ID_HASH_PEPPER must be 32 bytes (64 hex chars)"
    else .error "ENCRYPTION_KEY must be 32 bytes (64 hex chars) for AES-256"

variable (aes : AesGcm) (service : CryptoService)

/-- `iv` is what `randomBytes` gives. -/
def encrypt (iv : List UInt8) (plaintext : String) : String :=
  let encrypted := aes.cipher service.encryptionKey iv (Utf8.encode plaintext)
  Base64.encode (iv ++ encrypted.2 ++ encrypted.1)

/-- `decrypt` throws where this is none. -/
def decrypt (ciphertext : String) : Option String :=
  let data := Base64.decode ciphertext
  let iv := data.take ivLength
  let authTag := (data.drop ivLength).take authTagLength
  let encrypted := data.drop (ivLength + authTagLength)
  (aes.decipher service.encryptionKey iv authTag encrypted).map Utf8.decode

def hashKycIdNumber (sha256 : Sha256) (idNumber : String) : String :=
  sha256 (service.kycIdPepper ++ idNumber)

variable {aes service} {iv : List UInt8} {plaintext : String}

theorem data_encrypt : Base64.decode (encrypt aes service iv plaintext) =
    iv ++ (aes.cipher service.encryptionKey iv (Utf8.encode plaintext)).2 ++
      (aes.cipher service.encryptionKey iv (Utf8.encode plaintext)).1 :=
  Base64.decode_encode _

theorem split_data {iv authTag : List UInt8} (encrypted : List UInt8) (iv_length : iv.length = ivLength)
    (tag_length : authTag.length = authTagLength) :
    (iv ++ authTag ++ encrypted).take ivLength = iv ∧
      ((iv ++ authTag ++ encrypted).drop ivLength).take authTagLength = authTag ∧
      (iv ++ authTag ++ encrypted).drop (ivLength + authTagLength) = encrypted := by
  refine ⟨?_, ?_, ?_⟩
  · rw [List.append_assoc, ← iv_length, List.take_left]
  · rw [List.append_assoc, ← iv_length, List.drop_left, ← tag_length, List.take_left]
  · rw [← iv_length, ← tag_length, ← List.length_append, List.drop_left]

theorem decrypt_of_encrypt (correct : aes.Correct) (length : iv.length = ivLength) :
    decrypt aes service (encrypt aes service iv plaintext) = some plaintext := by
  obtain ⟨first, second, last⟩ := split_data
    (aes.cipher service.encryptionKey iv (Utf8.encode plaintext)).1 length
    (correct.authTag service.encryptionKey iv (Utf8.encode plaintext))
  unfold decrypt
  dsimp only
  rw [data_encrypt, first, second, last, correct.opens _ _ _ service.keyLength length,
    Option.map_some, Utf8.decode_encode]

/-- A text comes back from its column, and two columns are alike only when they were made of
one text with one initialisation vector. -/
theorem column_decrypts (correct : aes.Correct) (length : iv.length = ivLength) :
    decrypt aes service (encrypt aes service iv plaintext) = some plaintext ∧
      ∀ iv' plaintext', iv'.length = ivLength →
        encrypt aes service iv plaintext = encrypt aes service iv' plaintext' →
          iv = iv' ∧ plaintext = plaintext' := by
  refine ⟨decrypt_of_encrypt correct length, fun iv' plaintext' length' same => ⟨?_, ?_⟩⟩
  · have data := congrArg (fun text => (Base64.decode text).take ivLength) same
    simp only [data_encrypt] at data
    rwa [(split_data _ length (correct.authTag ..)).1, (split_data _ length' (correct.authTag ..)).1]
      at data
  · have texts : decrypt aes service (encrypt aes service iv plaintext) = some plaintext :=
      decrypt_of_encrypt correct length
    rw [same, decrypt_of_encrypt correct length'] at texts
    exact (Option.some.inj texts).symm

def sampleConfig (name : String) : Option String :=
  if name = "ENCRYPTION_KEY" then
    some "000102030405060708090a0b0c0d0e0f101112131415161718191a1b1c1d1e1f"
  else if name = "KYC_ID_HASH_PEPPER" then
    some "0f0f0f0f0f0f0f0f0f0f0f0f0f0f0f0f0f0f0f0f0f0f0f0f0f0f0f0f0f0f0f0f"
  else none

def sampleKey : List UInt8 := (List.range 32).map UInt8.ofNat

def sampleIv : List UInt8 := (List.range' 1 12).map UInt8.ofNat

def sampleNumber : String := "22212345678"

def sampleEncrypted : List UInt8 × List UInt8 :=
  ([55, 216, 104, 228, 222, 167, 196, 179, 122, 149, 91],
    [184, 47, 73, 20, 164, 253, 214, 33, 236, 170, 112, 244, 106, 232, 208, 223])

/-- What the cipher gives for this key, vector and number; other texts are left as they are. -/
def sampleAes : AesGcm where
  cipher key iv plaintext :=
    if (key, iv, plaintext) = (sampleKey, sampleIv, Utf8.encode sampleNumber) then sampleEncrypted
    else (plaintext, List.replicate 16 0)
  decipher key iv authTag ciphertext :=
    if (key, iv, ciphertext, authTag) = (sampleKey, sampleIv, sampleEncrypted) then
      some (Utf8.encode sampleNumber)
    else if authTag = List.replicate 16 0 then some ciphertext
    else none

theorem sampleAes_correct : sampleAes.Correct where
  authTag key iv plaintext := by
    unfold sampleAes
    dsimp only
    split <;> rfl
  opens key iv plaintext _ _ := by
    unfold sampleAes
    dsimp only
    by_cases sample : (key, iv, plaintext) = (sampleKey, sampleIv, Utf8.encode sampleNumber)
    · obtain ⟨rfl, rfl, rfl⟩ : key = sampleKey ∧ iv = sampleIv ∧
          plaintext = Utf8.encode sampleNumber := by simpa using sample
      rw [if_pos rfl, if_pos rfl]
    · have tag : (List.replicate 16 0 : List UInt8) ≠ sampleEncrypted.2 := by decide
      rw [if_neg sample, if_neg, if_pos rfl]
      rintro same
      exact tag (congrArg (fun data => data.2.2.2) same)

def sampleService : CryptoService where
  encryptionKey := sampleKey
  kycIdPepper := "0f0f0f0f0f0f0f0f0f0f0f0f0f0f0f0f0f0f0f0f0f0f0f0f0f0f0f0f0f0f0f0f"
  keyLength := by decide

def sampleColumn : String := "AQIDBAUGBwgJCgsMuC9JFKT91iHsqnD0aujQ3zfYaOTep8SzepVb"

theorem column_decrypts_sample : onModuleInit sampleConfig = .ok sampleService ∧
    encrypt sampleAes sampleService sampleIv sampleNumber = sampleColumn ∧
    decrypt sampleAes sampleService (encrypt sampleAes sampleService sampleIv sampleNumber) =
      some sampleNumber ∧
    ∀ iv' plaintext', iv'.length = ivLength →
      encrypt sampleAes sampleService sampleIv sampleNumber =
        encrypt sampleAes sampleService iv' plaintext' → sampleIv = iv' ∧ sampleNumber = plaintext' := by
  exact ⟨by decide +kernel, by decide +kernel, column_decrypts sampleAes_correct rfl⟩

end CryptoService

end Bitmonie
