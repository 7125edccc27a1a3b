import Mathlib.Data.List.Basic

/-! The texts of JSON, and where one may be cut. A text that is read from behind a point
cannot be an object when the whole is one. Nothing here names a program. -/
namespace Json

def Space (t : List Char) : Prop := ∀ c ∈ t, c ∈ [' ', '\t', '\n', '\r']

def Digits (t : List Char) : Prop := t ≠ [] ∧ ∀ c ∈ t, c.isDigit = true

/-- Sign, integer without leading zeros, fraction and exponent. -/
structure Number (t : List Char) : Prop where
  parts : ∃ sign integer fraction exponent, t = sign ++ integer ++ fraction ++ exponent ∧
    sign ∈ [[], ['-']] ∧ (integer = ['0'] ∨ Digits integer ∧ integer.head? ≠ some '0') ∧
    (fraction = [] ∨ ∃ digits, Digits digits ∧ fraction = '.' :: digits) ∧
    (exponent = [] ∨ ∃ e s digits, e ∈ ['e', 'E'] ∧ s ∈ [[], ['+'], ['-']] ∧ Digits digits ∧
      exponent = e :: s ++ digits)

/-- What stands between the quotes of a string. -/
inductive Chars : List Char → Prop where
  | nil : Chars []
  | plain {c : Char} {rest : List Char} : c ≠ '"' → c ≠ '\\' → 32 ≤ c.toNat → Chars rest →
      Chars (c :: rest)
  | escape {c : Char} {rest : List Char} : c ∈ ['"', '\\', '/', 'b', 'f', 'n', 'r', 't'] →
      Chars rest → Chars ('\\' :: c :: rest)
  | unicode {hex rest : List Char} : hex.length = 4 →
      (∀ c ∈ hex, c ∈ "0123456789abcdefABCDEF".toList) → Chars rest →
      Chars ('\\' :: 'u' :: hex ++ rest)

def quoted (chars : List Char) : List Char := '"' :: chars ++ ['"']

inductive Form where
  | value | items | entries

/-- A value, the items of an array, or the entries of an object, at least one of them. -/
inductive Spells : Form → List Char → Prop where
  | literal {t : List Char} : t ∈ ["true".toList, "false".toList, "null".toList] → Spells .value t
  | number {t : List Char} : Number t → Spells .value t
  | string {chars : List Char} : Chars chars → Spells .value (quoted chars)
  | emptyArray {a : List Char} : Space a → Spells .value ('[' :: a ++ [']'])
  | array {t : List Char} : Spells .items t → Spells .value ('[' :: t ++ [']'])
  | emptyObject {a : List Char} : Space a → Spells .value ('{' :: a ++ ['}'])
  | object {t : List Char} : Spells .entries t → Spells .value ('{' :: t ++ ['}'])
  | item {a v b : List Char} : Space a → Spells .value v → Space b → Spells .items (a ++ v ++ b)
  | nextItem {a v b rest : List Char} : Space a → Spells .value v → Space b → Spells .items rest →
      Spells .items (a ++ v ++ b ++ ',' :: rest)
  | entry {a k b c v d : List Char} : Space a → Chars k → Space b → Space c → Spells .value v →
      Space d → Spells .entries (a ++ quoted k ++ b ++ ':' :: c ++ v ++ d)
  | nextEntry {a k b c v d rest : List Char} : Space a → Chars k → Space b → Space c →
      Spells .value v → Space d → Spells .entries rest →
      Spells .entries (a ++ quoted k ++ b ++ ':' :: c ++ v ++ d ++ ',' :: rest)

/-- A text that parses to an object. -/
def Object (t : List Char) : Prop :=
  ∃ before body after, t = before ++ ('{' :: body ++ ['}']) ++ after ∧ Space before ∧
    (Space body ∨ Spells .entries body) ∧ Space after

/-- A reader stands outside strings, in one, or behind a backslash. -/
inductive Spot where
  | outside | inside | escaped

def Spot.next : Spot → Char → Spot
  | .escaped, _ => .inside
  | .inside, c => if c = '\\' then .escaped else if c = '"' then .outside else .inside
  | .outside, c => if c = '"' then .inside else .outside

def scan (spot : Spot) (t : List Char) : Spot := t.foldl Spot.next spot

@[simp] theorem scan_nil (spot : Spot) : scan spot [] = spot := rfl

@[simp] theorem scan_cons (spot : Spot) (c : Char) (t : List Char) :
    scan spot (c :: t) = scan (spot.next c) t := rfl

@[simp] theorem scan_append (spot : Spot) (t t' : List Char) :
    scan spot (t ++ t') = scan (scan spot t) t' := List.foldl_append

/-- Outside strings there is no backslash, and a point has a digit behind it. -/
def Clean : Spot → List Char → Prop
  | _, [] => True
  | .outside, c :: rest => c ≠ '\\' ∧
      (c = '.' → ∃ d more, rest = d :: more ∧ d.isDigit = true) ∧ Clean (Spot.outside.next c) rest
  | .inside, c :: rest => Clean (Spot.inside.next c) rest
  | .escaped, c :: rest => Clean (Spot.escaped.next c) rest

theorem Clean.append {spot : Spot} {t t' : List Char} (first : Clean spot t)
    (second : Clean (scan spot t) t') : Clean spot (t ++ t') := by
  induction t generalizing spot with
  | nil => exact second
  | cons c rest ih =>
    cases spot with
    | outside =>
      obtain ⟨slash, point, tail⟩ := first
      refine ⟨slash, fun here => ?_, ih tail second⟩
      obtain ⟨d, more, rfl, digit⟩ := point here
      exact ⟨d, more ++ t', rfl, digit⟩
    | inside => exact @ih (Spot.inside.next c) first second
    | escaped => exact @ih (Spot.escaped.next c) first second

theorem Clean.of_append {spot : Spot} {t t' : List Char} (clean : Clean spot (t ++ t')) :
    Clean (scan spot t) t' := by
  induction t generalizing spot with
  | nil => exact clean
  | cons c rest ih =>
    cases spot with
    | outside => exact ih clean.2.2
    | inside => exact @ih (Spot.inside.next c) clean
    | escaped => exact @ih (Spot.escaped.next c) clean

/-- Read from outside, a text that is clean and ends outside. -/
structure Balanced (t : List Char) : Prop where
  clean : Clean .outside t
  ends : scan .outside t = .outside

namespace Balanced

theorem nil : Balanced [] := ⟨trivial, rfl⟩

theorem append {t t' : List Char} (first : Balanced t) (second : Balanced t') :
    Balanced (t ++ t') :=
  ⟨first.clean.append (by rw [first.ends]; exact second.clean),
    by rw [scan_append, first.ends, second.ends]⟩

/-- A character that is neither a quote nor a backslash nor a point. -/
theorem cons {c : Char} {t : List Char} (plain : c ≠ '"' ∧ c ≠ '\\' ∧ c ≠ '.') (rest : Balanced t) :
    Balanced (c :: t) := by
  have step : Spot.outside.next c = .outside := by simp [Spot.next, plain.1]
  refine ⟨⟨plain.2.1, fun point => absurd point plain.2.2, ?_⟩, ?_⟩
  · rw [step]
    exact rest.clean
  · rw [scan_cons, step]
    exact rest.ends

theorem of_plain {t : List Char} (plain : ∀ c ∈ t, c ≠ '"' ∧ c ≠ '\\' ∧ c ≠ '.') : Balanced t := by
  induction t with
  | nil => exact nil
  | cons c rest ih =>
    exact cons (plain c (List.mem_cons_self ..)) (ih fun d member =>
      plain d (List.mem_cons_of_mem _ member))

end Balanced

theorem balanced_space {t : List Char} (space : Space t) : Balanced t := by
  refine .of_plain fun c member => ?_
  have among := space c member
  simp only [List.mem_cons, List.not_mem_nil, or_false] at among
  rcases among with rfl | rfl | rfl | rfl <;> decide

theorem plain_of_digit {c : Char} (digit : c.isDigit = true) : c ≠ '"' ∧ c ≠ '\\' ∧ c ≠ '.' := by
  refine ⟨?_, ?_, ?_⟩
  all_goals
    rintro rfl
    revert digit
    decide

theorem balanced_digits {t : List Char} (digits : Digits t) : Balanced t :=
  .of_plain fun c member => plain_of_digit (digits.2 c member)

/-- A fraction: the point has a digit behind it. -/
theorem balanced_fraction {t : List Char} (digits : Digits t) : Balanced ('.' :: t) := by
  have rest := balanced_digits digits
  refine ⟨⟨by decide, fun _ => ?_, rest.clean⟩, rest.ends⟩
  cases t with
  | nil => exact absurd rfl digits.1
  | cons d more => exact ⟨d, more, rfl, digits.2 d (List.mem_cons_self ..)⟩

theorem balanced_number {t : List Char} (number : Number t) : Balanced t := by
  obtain ⟨sign, integer, fraction, exponent, rfl, signed, whole, broken, powered⟩ := number.parts
  have first : Balanced sign := by
    simp only [List.mem_cons, List.not_mem_nil, or_false] at signed
    rcases signed with rfl | rfl
    · exact .nil
    · exact .cons (by decide) .nil
  have second : Balanced integer := by
    rcases whole with rfl | ⟨digits, -⟩
    · exact .cons (by decide) .nil
    · exact balanced_digits digits
  have third : Balanced fraction := by
    rcases broken with rfl | ⟨digits, here, rfl⟩
    · exact .nil
    · exact balanced_fraction here
  have fourth : Balanced exponent := by
    rcases powered with rfl | ⟨e, s, digits, letter, sign, here, rfl⟩
    · exact .nil
    · have signs : Balanced s := by
        simp only [List.mem_cons, List.not_mem_nil, or_false] at sign
        rcases sign with rfl | rfl | rfl
        · exact .nil
        · exact .cons (by decide) .nil
        · exact .cons (by decide) .nil
      refine (Balanced.cons ?_ signs).append (balanced_digits here)
      simp only [List.mem_cons, List.not_mem_nil, or_false] at letter
      rcases letter with rfl | rfl <;> decide
  exact ((first.append second).append third).append fourth

/-- In a string nothing has to be clean. -/
theorem clean_inside {t : List Char} (chars : Chars t) :
    Clean .inside t ∧ scan .inside t = .inside := by
  induction chars with
  | nil => exact ⟨trivial, rfl⟩
  | @plain c rest quote slash _ _ ih =>
    have step : Spot.inside.next c = .inside := by simp [Spot.next, quote, slash]
    exact ⟨by rw [Clean, step]; exact ih.1, by rw [scan_cons, step]; exact ih.2⟩
  | escape _ _ ih => exact ⟨ih.1, ih.2⟩
  | @unicode hex rest four digits _ ih =>
    have plain : ∀ c ∈ hex, c ≠ '"' ∧ c ≠ '\\' := by
      intro c member
      have among := digits c member
      constructor
      all_goals
        rintro rfl
        revert among
        decide
    have passes (t : List Char) (these : ∀ c ∈ t, c ≠ '"' ∧ c ≠ '\\') :
        Clean .inside (t ++ rest) ∧ scan .inside (t ++ rest) = .inside := by
      induction t with
      | nil => exact ih
      | cons c more again =>
        obtain ⟨quote, slash⟩ := these c (List.mem_cons_self ..)
        obtain ⟨clean, ends⟩ := again fun d member => these d (List.mem_cons_of_mem _ member)
        have step : Spot.inside.next c = .inside := by simp [Spot.next, quote, slash]
        exact ⟨by rw [List.cons_append, Clean, step]; exact clean,
          by rw [List.cons_append, scan_cons, step]; exact ends⟩
    exact passes hex plain

theorem balanced_quoted {t : List Char} (chars : Chars t) : Balanced (quoted t) := by
  obtain ⟨clean, ends⟩ := clean_inside chars
  refine ⟨⟨by decide, fun point => absurd point (by decide), ?_⟩, ?_⟩
  · exact clean.append (by rw [ends]; trivial)
  · change scan .inside (t ++ ['"']) = .outside
    rw [scan_append, ends]
    rfl

/-- A character that is put around texts. -/
theorem balanced_mark {c : Char} (mark : c ∈ ['[', ']', '{', '}', ',', ':']) {t : List Char}
    (rest : Balanced t) : Balanced (c :: t) := by
  refine .cons ?_ rest
  simp only [List.mem_cons, List.not_mem_nil, or_false] at mark
  rcases mark with rfl | rfl | rfl | rfl | rfl | rfl <;> decide

theorem balanced_bracketed {l r : Char} {t : List Char}
    (left : l ∈ ['[', ']', '{', '}', ',', ':']) (right : r ∈ ['[', ']', '{', '}', ',', ':'])
    (body : Balanced t) : Balanced (l :: t ++ [r]) :=
  balanced_mark left (body.append (balanced_mark right .nil))

theorem balanced_spells {form : Form} {t : List Char} (spells : Spells form t) : Balanced t := by
  induction spells with
  | literal among =>
    simp only [List.mem_cons, List.not_mem_nil, or_false] at among
    rcases among with rfl | rfl | rfl <;> exact .of_plain (by simp)
  | number number => exact balanced_number number
  | string chars => exact balanced_quoted chars
  | emptyArray space => exact balanced_bracketed (by decide) (by decide) (balanced_space space)
  | array _ ih => exact balanced_bracketed (by decide) (by decide) ih
  | emptyObject space => exact balanced_bracketed (by decide) (by decide) (balanced_space space)
  | object _ ih => exact balanced_bracketed (by decide) (by decide) ih
  | item a _ b ih => exact ((balanced_space a).append ih).append (balanced_space b)
  | nextItem a _ b _ value rest =>
    exact (((balanced_space a).append value).append (balanced_space b)).append
      (balanced_mark (by decide) rest)
  | entry a k b c _ d value =>
    have key := ((balanced_space a).append (balanced_quoted k)).append (balanced_space b)
    have named := key.append (balanced_mark (c := ':') (by decide) (balanced_space c))
    exact (named.append value).append (balanced_space d)
  | nextEntry a k b c _ d _ value rest =>
    have key := ((balanced_space a).append (balanced_quoted k)).append (balanced_space b)
    have named := key.append (balanced_mark (c := ':') (by decide) (balanced_space c))
    exact ((named.append value).append (balanced_space d)).append (balanced_mark (by decide) rest)

theorem Object.balanced {t : List Char} (object : Object t) : Balanced t := by
  obtain ⟨before, body, after, rfl, space, inner, space'⟩ := object
  have bodied : Balanced body := by
    rcases inner with blank | entries
    · exact balanced_space blank
    · exact balanced_spells entries
  exact ((balanced_space space).append (balanced_bracketed (by decide) (by decide) bodied)).append
    (balanced_space space')

/-- An object does not start with a digit. -/
theorem Object.head {c : Char} {t : List Char} (object : Object (c :: t)) : c.isDigit = false := by
  obtain ⟨before, body, after, same, space, -⟩ := object
  cases before with
  | nil =>
    obtain ⟨rfl, -⟩ := List.cons.inj same
    decide
  | cons d more =>
    obtain ⟨rfl, -⟩ := List.cons.inj same
    have among := space c (List.mem_cons_self ..)
    simp only [List.mem_cons, List.not_mem_nil, or_false] at among
    rcases among with rfl | rfl | rfl | rfl <;> decide

/-- Read from outside and from inside, a text that is clean either way ends differently: its
quotes turn both readers, and it has no backslashes. -/
theorem scan_ne {t : List Char} (outside : Clean .outside t) (inside : Clean .inside t) :
    scan .outside t ≠ scan .inside t := by
  induction t with
  | nil => exact Spot.noConfusion
  | cons c rest ih =>
    obtain ⟨slash, -, clean⟩ := outside
    by_cases quote : c = '"'
    · subst quote
      exact (ih inside clean).symm
    · have still : Spot.outside.next c = .outside := by simp [Spot.next, quote]
      have within : Spot.inside.next c = .inside := by simp [Spot.next, quote, slash]
      rw [scan_cons, scan_cons, still, within]
      rw [still] at clean
      rw [Clean, within] at inside
      exact ih clean inside

/-- Behind a point of an object no other object can be read. -/
theorem Object.behind_point {t before s : List Char} (object : Object t)
    (cut : t = before ++ '.' :: s) : ¬ Object s := by
  intro other
  have whole := object.balanced
  have part := other.balanced
  rw [cut] at whole
  have clean := whole.clean.of_append
  have ends : scan (scan .outside before) ('.' :: s) = .outside := by
    rw [← scan_append]
    exact whole.ends
  cases spot : scan .outside before with
  | outside =>
    rw [spot] at clean
    obtain ⟨-, digit, -⟩ := clean
    obtain ⟨d, more, rfl, isDigit⟩ := digit rfl
    rw [other.head] at isDigit
    cases isDigit
  | inside =>
    rw [spot] at clean ends
    exact scan_ne part.clean clean (part.ends.trans ends.symm)
  | escaped =>
    rw [spot] at clean ends
    exact scan_ne part.clean clean (part.ends.trans ends.symm)

end Json
