import Mathlib.Data.Rat.Defs
import Mathlib.Algebra.Order.Field.Rat

/-! How alike two names are: each token of the shorter name against its best match in the
longer one, by Jaro-Winkler. Scores are exact. -/
namespace Bitmonie.NameMatchService

/-- The letters beyond ASCII whose lower case has a letter of ASCII in it are `İ` and `K`. -/
def toLowerCase (c : Char) : Char :=
  if c.val = 0x130 then 'i' else if c.val = 0x212A then 'k' else c.toLower

/-- `\s` -/
def isSpace (c : Char) : Bool :=
  [0x9, 0xA, 0xB, 0xC, 0xD, 0x20, 0xA0, 0x1680, 0x2028, 0x2029, 0x202F, 0x205F, 0x3000, 0xFEFF].contains
    c.val.toNat || (0x2000 ≤ c.val.toNat && c.val.toNat ≤ 0x200A)

def isKept (c : Char) : Bool := ('a' ≤ c && c ≤ 'z') || isSpace c

def splitSpaces : List Char → List (List Char)
  | [] => [[]]
  | c :: rest =>
    if isSpace c then [] :: splitSpaces rest
    else match splitSpaces rest with
      | [] => [[c]]
      | token :: tokens => (c :: token) :: tokens

def tokenize (name : String) : List (List Char) :=
  (splitSpaces ((name.toList.map toLowerCase).filter isKept)).filter (· ≠ [])

/-- The first place within reach of `i` that holds `c` and is not taken. -/
def nextMatch (s₂ : List Char) (taken : List Bool) (matchDist i : Nat) (c : Char) : Option Nat :=
  (List.range (min (i + matchDist + 1) s₂.length)).find? fun j =>
    i - matchDist ≤ j && taken[j]? = some false && s₂[j]? = some c

/-- Which places of the two texts are matched, after the places of `s₁` before `i`. -/
def findMatches (s₁ s₂ : List Char) : List Bool × List Bool :=
  let matchDist := max s₁.length s₂.length / 2 - 1
  s₁.zipIdx.foldl (fun (s₁Matches, s₂Matches) (c, i) =>
    match nextMatch s₂ s₂Matches matchDist i c with
    | none => (s₁Matches ++ [false], s₂Matches)
    | some j => (s₁Matches ++ [true], s₂Matches.set j true))
    ([], List.replicate s₂.length false)

def matchedChars (s : List Char) (matched : List Bool) : List Char :=
  ((s.zip matched).filter (·.2)).map (·.1)

def jaro (s₁ s₂ : List Char) : ℚ :=
  if s₁ = s₂ then 1
  else if s₁.length = 0 ∨ s₂.length = 0 then 0
  else
    let (s₁Matches, s₂Matches) := findMatches s₁ s₂
    let matched := s₁Matches.count true
    if matched = 0 then 0
    else
      let pairs := (matchedChars s₁ s₁Matches).zip (matchedChars s₂ s₂Matches)
      let transpositions := (pairs.filter fun pair => pair.1 ≠ pair.2).length
      ((matched : ℚ) / s₁.length + (matched : ℚ) / s₂.length +
        ((matched : ℚ) - (transpositions : ℚ) / 2) / matched) / 3

def commonPrefix : List Char → List Char → Nat
  | a :: rest₁, b :: rest₂ => if a = b then commonPrefix rest₁ rest₂ + 1 else 0
  | _, _ => 0

def jaroWinkler (s₁ s₂ : List Char) : ℚ :=
  let jaroScore := jaro s₁ s₂
  jaroScore + (min 4 (commonPrefix s₁ s₂) : Nat) * (1 / 10) * (1 - jaroScore)

def scoreTokens (source target : List (List Char)) : ℚ :=
  if source.length = 0 ∨ target.length = 0 then 0
  else
    let scores := source.map fun token =>
      (target.map (jaroWinkler token)).foldl max 0
    scores.sum / scores.length

def firstAndLast (tokens : List (List Char)) : List (List Char) :=
  tokens.head?.toList ++ tokens.getLast?.toList

/-- The better of the scores with the names in the middle and without them. -/
def compare (a b : String) : ℚ :=
  let tokensA := tokenize a
  let tokensB := tokenize b
  if tokensA.length = 0 ∨ tokensB.length = 0 then 0
  else
    let fullScore :=
      if tokensA.length ≤ tokensB.length then scoreTokens tokensA tokensB
      else scoreTokens tokensB tokensA
    if tokensA.length < 2 ∨ tokensB.length < 2 then fullScore
    else max fullScore (scoreTokens (firstAndLast tokensA) (firstAndLast tokensB))

example : compare "ADA OBI" "Obi Ngozi Ada" = 1 := by decide +kernel

end Bitmonie.NameMatchService
