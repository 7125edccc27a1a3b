import Mathlib.Data.List.Basic

/-! Bytes and texts: UTF-8 with replacement of what is ill-formed, and base64. Nothing here
names a program. -/
namespace Bitmonie

namespace Utf8

def encode (text : String) : List UInt8 := text.toList.flatMap String.utf8EncodeChar

/-- What is left of the character that is being read: so many bytes, the next of them within
these bounds. -/
structure Decoder where
  codePoint : Nat := 0
  needed : Nat := 0
  lower : Nat := 0x80
  upper : Nat := 0xBF

def replacement : Char := Char.ofNat 0xFFFD

/-- The first byte of a character. -/
def start (byte : Nat) : Decoder × List Char :=
  if byte ≤ 0x7F then ({}, [Char.ofNat byte])
  else if 0xC2 ≤ byte ∧ byte ≤ 0xDF then ({ codePoint := byte - 0xC0, needed := 1 }, [])
  else if 0xE0 ≤ byte ∧ byte ≤ 0xEF then
    ({ codePoint := byte - 0xE0, needed := 2
       lower := if byte = 0xE0 then 0xA0 else 0x80
       upper := if byte = 0xED then 0x9F else 0xBF }, [])
  else if 0xF0 ≤ byte ∧ byte ≤ 0xF4 then
    ({ codePoint := byte - 0xF0, needed := 3
       lower := if byte = 0xF0 then 0x90 else 0x80
       upper := if byte = 0xF4 then 0x8F else 0xBF }, [])
  else ({}, [replacement])

/-- A byte that does not go on is replaced with what was read, and starts anew. -/
def Decoder.feed (d : Decoder) (byte : Nat) : Decoder × List Char :=
  if d.needed = 0 then start byte
  else if d.lower ≤ byte ∧ byte ≤ d.upper then
    let codePoint := d.codePoint * 64 + (byte - 0x80)
    if d.needed = 1 then ({}, [Char.ofNat codePoint])
    else ({ codePoint, needed := d.needed - 1 }, [])
  else ((start byte).1, replacement :: (start byte).2)

def Decoder.decode (d : Decoder) : List UInt8 → List Char
  | [] => if d.needed = 0 then [] else [replacement]
  | byte :: rest => (d.feed byte.toNat).2 ++ (d.feed byte.toNat).1.decode rest

def decode (bytes : List UInt8) : String := String.ofList (({} : Decoder).decode bytes)

section Characters
variable {v : Nat} {d : Decoder} {rest : List UInt8}

theorem Decoder.decode_ofNat (small : v < 256) :
    d.decode (UInt8.ofNat v :: rest) = (d.feed v).2 ++ (d.feed v).1.decode rest := by
  rw [Decoder.decode, UInt8.toNat_ofNat_of_lt' small]

/-- A byte that goes on, and is not the last one. -/
theorem Decoder.feed_more {codePoint needed lower upper part : Nat} (above : lower ≤ part + 0x80)
    (below : part + 0x80 ≤ upper) :
    (Decoder.mk codePoint (needed + 2) lower upper).feed (part + 0x80) =
      ({ codePoint := codePoint * 64 + part, needed := needed + 1 }, []) := by
  simp [Decoder.feed, above, below]

theorem Decoder.feed_last {codePoint part : Nat} (small : part < 64) :
    (Decoder.mk codePoint 1 0x80 0xBF).feed (part + 0x80) =
      ({}, [Char.ofNat (codePoint * 64 + part)]) := by
  have below : part + 0x80 ≤ 0xBF := by omega
  simp [Decoder.feed, below]

end Characters

/-- The bytes of a character are read as that character. -/
theorem decode_char (c : Char) (rest : List UInt8) :
    ({} : Decoder).decode (String.utf8EncodeChar c ++ rest) = c :: ({} : Decoder).decode rest := by
  have valid : c.toNat < 0xD800 ∨ 0xDFFF < c.toNat ∧ c.toNat < 0x110000 := c.valid
  have whole : Char.ofNat c.toNat = c := Char.ofNat_toNat c
  have value : c.val.toNat = c.toNat := rfl
  unfold String.utf8EncodeChar
  rw [value]
  generalize c.toNat = v at valid whole
  dsimp only
  by_cases one : v ≤ 0x7F
  · rw [if_pos one, List.singleton_append, Decoder.decode_ofNat (by omega)]
    simp [Decoder.feed, start, one, whole]
  rw [if_neg one]
  by_cases two : v ≤ 0x7FF
  · have first : ({} : Decoder).feed (v / 64 % 32 + 0xC0) = (⟨v / 64, 1, 0x80, 0xBF⟩, []) := by
      have high : v / 64 % 32 + 0xC0 - 0xC0 = v / 64 := by omega
      rw [Decoder.feed, if_pos rfl, start, if_neg (by omega), if_pos (by omega), high]
    have joined : v / 64 * 64 + v % 64 = v := by omega
    rw [if_pos two, List.cons_append, List.singleton_append, Decoder.decode_ofNat (by omega), first,
      Decoder.decode_ofNat (by omega), Decoder.feed_last (by omega), joined, whole]
    rfl
  rw [if_neg two]
  by_cases three : v ≤ 0xFFFF
  · have first : ({} : Decoder).feed (v / 4096 % 16 + 0xE0) =
        (⟨v / 4096, 2, if v / 4096 = 0 then 0xA0 else 0x80,
          if v / 4096 = 0xD then 0x9F else 0xBF⟩, []) := by
      have high : v / 4096 % 16 + 0xE0 - 0xE0 = v / 4096 := by omega
      have lowest : v / 4096 % 16 + 0xE0 = 0xE0 ↔ v / 4096 = 0 := by omega
      have highest : v / 4096 % 16 + 0xE0 = 0xED ↔ v / 4096 = 0xD := by omega
      rw [Decoder.feed, if_pos rfl, start, if_neg (by omega), if_neg (by omega), if_pos (by omega),
        high]
      simp only [lowest, highest]
    have joined : (v / 4096 * 64 + v / 64 % 64) * 64 + v % 64 = v := by omega
    rw [if_pos three, List.cons_append, List.cons_append, List.singleton_append,
      Decoder.decode_ofNat (by omega), first, Decoder.decode_ofNat (by omega),
      Decoder.feed_more (by split <;> omega) (by split <;> omega), Decoder.decode_ofNat (by omega),
      Decoder.feed_last (by omega), joined, whole]
    rfl
  · have first : ({} : Decoder).feed (v / 262144 % 8 + 0xF0) =
        (⟨v / 262144, 3, if v / 262144 = 0 then 0x90 else 0x80,
          if v / 262144 = 4 then 0x8F else 0xBF⟩, []) := by
      have high : v / 262144 % 8 + 0xF0 - 0xF0 = v / 262144 := by omega
      have lowest : v / 262144 % 8 + 0xF0 = 0xF0 ↔ v / 262144 = 0 := by omega
      have highest : v / 262144 % 8 + 0xF0 = 0xF4 ↔ v / 262144 = 4 := by omega
      rw [Decoder.feed, if_pos rfl, start, if_neg (by omega), if_neg (by omega), if_neg (by omega),
        if_pos (by omega), high]
      simp only [lowest, highest]
    have joined : ((v / 262144 * 64 + v / 4096 % 64) * 64 + v / 64 % 64) * 64 + v % 64 = v := by
      omega
    rw [if_neg three, List.cons_append, List.cons_append, List.cons_append, List.singleton_append,
      Decoder.decode_ofNat (by omega), first, Decoder.decode_ofNat (by omega),
      Decoder.feed_more (by split <;> omega) (by split <;> omega), Decoder.decode_ofNat (by omega),
      Decoder.feed_more (by omega) (by omega), Decoder.decode_ofNat (by omega),
      Decoder.feed_last (by omega), joined, whole]
    rfl

/-- A text comes back from its bytes. -/
theorem decode_encode (text : String) : decode (encode text) = text := by
  have chars (chars : List Char) :
      ({} : Decoder).decode (chars.flatMap String.utf8EncodeChar) = chars := by
    induction chars with
    | nil => rfl
    | cons c rest ih => rw [List.flatMap_cons, decode_char, ih]
  rw [decode, encode, chars, String.ofList_toList]

end Utf8

namespace Base64

def alphabet : List Char :=
  "ABCDEFGHIJKLMNOPQRSTUVWXYZabcdefghijklmnopqrstuvwxyz0123456789+/".toList

def digit (sextet : Nat) : Char := alphabet[sextet]?.getD '='

/-- Six bits for each character, padded to a multiple of four characters. -/
def encodeBytes : List UInt8 → List Char
  | [] => []
  | [a] => [digit (a.toNat / 4), digit (a.toNat % 4 * 16), '=', '=']
  | [a, b] => [digit (a.toNat / 4), digit (a.toNat % 4 * 16 + b.toNat / 16),
      digit (b.toNat % 16 * 4), '=']
  | a :: b :: c :: rest =>
    digit (a.toNat / 4) :: digit (a.toNat % 4 * 16 + b.toNat / 16) ::
      digit (b.toNat % 16 * 4 + c.toNat / 64) :: digit (c.toNat % 64) :: encodeBytes rest

def encode (bytes : List UInt8) : String := String.ofList (encodeBytes bytes)

/-- The alphabet for addresses is read as well; other characters stand for nothing. -/
def sextet? (c : Char) : Option Nat :=
  if c = '-' then some 62
  else if c = '_' then some 63
  else if c ∈ alphabet then some (alphabet.idxOf c)
  else none

/-- They are read up to the padding. -/
def sextets : List Char → List Nat
  | [] => []
  | c :: rest => if c = '=' then [] else (sextet? c).toList ++ sextets rest

/-- What the sextets hold of whole bytes. -/
def joinSextets : List Nat → List UInt8
  | a :: b :: c :: d :: rest =>
    UInt8.ofNat (a * 4 + b / 16) :: UInt8.ofNat (b % 16 * 16 + c / 4) ::
      UInt8.ofNat (c % 4 * 64 + d) :: joinSextets rest
  | [a, b, c] => [UInt8.ofNat (a * 4 + b / 16), UInt8.ofNat (b % 16 * 16 + c / 4)]
  | [a, b] => [UInt8.ofNat (a * 4 + b / 16)]
  | [_] => []
  | [] => []

def decode (text : String) : List UInt8 := joinSextets (sextets text.toList)

theorem sextets_digit {n : Nat} (small : n < 64) (rest : List Char) :
    sextets (digit n :: rest) = n :: sextets rest := by
  have each : ∀ n : Fin 64, digit n ≠ '=' ∧ sextet? (digit n) = some n.val := by decide +kernel
  obtain ⟨other, read⟩ := each ⟨n, small⟩
  rw [sextets, if_neg other, read]
  rfl

theorem sextets_padding (rest : List Char) : sextets ('=' :: rest) = [] := if_pos rfl

theorem ofNat_byte {n : Nat} (byte : UInt8) (same : n = byte.toNat) : UInt8.ofNat n = byte := by
  rw [same, UInt8.ofNat_toNat]

theorem joinSextets_encodeBytes (bytes : List UInt8) :
    joinSextets (sextets (encodeBytes bytes)) = bytes := by
  fun_induction encodeBytes bytes with
  | case1 => rfl
  | case2 a =>
    have bound := a.toNat_lt
    rw [sextets_digit (by omega), sextets_digit (by omega), sextets_padding, joinSextets,
      ofNat_byte a (by omega)]
  | case3 a b =>
    have bound := a.toNat_lt
    have bound' := b.toNat_lt
    rw [sextets_digit (by omega), sextets_digit (by omega), sextets_digit (by omega),
      sextets_padding, joinSextets, ofNat_byte a (by omega), ofNat_byte b (by omega)]
  | case4 a b c rest ih =>
    have bound := a.toNat_lt
    have bound' := b.toNat_lt
    have bound'' := c.toNat_lt
    rw [sextets_digit (by omega), sextets_digit (by omega), sextets_digit (by omega),
      sextets_digit (by omega), joinSextets, ih, ofNat_byte a (by omega), ofNat_byte b (by omega),
      ofNat_byte c (by omega)]

/-- Bytes come back from their text. -/
theorem decode_encode (bytes : List UInt8) : decode (encode bytes) = bytes := by
  rw [decode, encode, String.toList_ofList, joinSextets_encodeBytes]

end Base64

end Bitmonie
