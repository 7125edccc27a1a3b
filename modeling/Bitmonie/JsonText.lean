import Mathlib.Data.List.Basic
import Mathlib.Tactic.Cases

/-! Values of JSON and their text, as `JSON.stringify` writes it: strings are sequences of
UTF-16 code units, and the text of a value tells where the value ends. -/
namespace Json

/-- A string of code units. -/
abbrev Text := List UInt16

/-- The code units of a literal without surrogates. -/
def text (s : String) : Text := s.toList.map fun c => c.toNat.toUInt16

/-- What `JSON.parse` returns. The entries of an object come in the order of its properties. -/
inductive Value (Number : Type) where
  | null
  | bool (value : Bool)
  | number (value : Number)
  | string (value : Text)
  | array (items : List (Value Number))
  | object (entries : List (Text × Value Number))

/-- Quotes, brackets, braces and commas: `" , [ ] { }`. -/
def structural : List UInt16 := [34, 44, 91, 93, 123, 125]

/-- The text of a number has digits, signs, a point and letters only. -/
structure NumberFormat (Number : Type) where
  text : Number → Text
  plain : ∀ n, ∀ u ∈ text n, u ∉ structural

def hexDigit (n : Nat) : UInt16 := ((text "0123456789abcdef")[n]?).getD 48

def unicodeEscape (u : UInt16) : Text :=
  [92, 117, hexDigit (u.toNat / 4096), hexDigit (u.toNat / 256 % 16),
    hexDigit (u.toNat / 16 % 16), hexDigit (u.toNat % 16)]

def leading (u : UInt16) : Bool := 0xD800 ≤ u && u < 0xDC00

def trailing (u : UInt16) : Bool := 0xDC00 ≤ u && u < 0xE000

/-- A code unit outside a surrogate pair. -/
def quoteUnit (u : UInt16) : Text :=
  if u = 8 then [92, 98]
  else if u = 9 then [92, 116]
  else if u = 10 then [92, 110]
  else if u = 12 then [92, 102]
  else if u = 13 then [92, 114]
  else if u = 34 ∨ u = 92 then [92, u]
  else if u < 32 ∨ leading u ∨ trailing u then unicodeEscape u
  else [u]

def quoteUnits : Text → Text
  | [] => []
  | [u] => quoteUnit u
  | u :: v :: rest =>
    if leading u && trailing v then u :: v :: quoteUnits rest
    else quoteUnit u ++ quoteUnits (v :: rest)

def quote (s : Text) : Text := 34 :: quoteUnits s ++ [34]

section Stringify
variable {Number : Type} (format : NumberFormat Number)

mutual
def stringify : Value Number → Text
  | .null => text "null"
  | .bool true => text "true"
  | .bool false => text "false"
  | .number n => format.text n
  | .string s => quote s
  | .array items => 91 :: stringifyItems [] items ++ [93]
  | .object entries => 123 :: stringifyEntries [] entries ++ [125]

/-- `lead` stands before the first item, a comma before each of the others. -/
def stringifyItems (lead : Text) : List (Value Number) → Text
  | [] => []
  | v :: rest => lead ++ stringify v ++ stringifyItems [44] rest

def stringifyEntries (lead : Text) : List (Text × Value Number) → Text
  | [] => []
  | (k, v) :: rest => lead ++ quote k ++ 58 :: stringify v ++ stringifyEntries [44] rest
end

end Stringify

/-- A reader of a text stands outside strings, in one, or behind a backslash. -/
inductive Place where
  | outside
  | inside
  | escaped

/-- What follows the value at the front of a text; `depth` brackets are open. -/
def skip : Nat → Place → Text → Text
  | _, _, [] => []
  | depth, .escaped, _ :: rest => skip depth .inside rest
  | depth, .inside, u :: rest =>
    if u = 92 then skip depth .escaped rest
    else if u = 34 then if depth = 0 then rest else skip depth .outside rest
    else skip depth .inside rest
  | depth, .outside, u :: rest =>
    if u = 34 then skip depth .inside rest
    else if u = 91 ∨ u = 123 then skip (depth + 1) .outside rest
    else if u = 93 ∨ u = 125 then
      if depth = 0 then u :: rest else if depth = 1 then rest else skip (depth - 1) .outside rest
    else if depth = 0 ∧ u = 44 then u :: rest
    else skip depth .outside rest

/-- In a string a unit that is neither a quote nor a backslash is passed. -/
theorem skip_inside {u : UInt16} {depth : Nat} {rest : Text} (quote : u ≠ 34) (slash : u ≠ 92) :
    skip depth .inside (u :: rest) = skip depth .inside rest := by
  simp [skip, quote, slash]

theorem skip_escaped (u : UInt16) (depth : Nat) (rest : Text) :
    skip depth .inside (92 :: u :: rest) = skip depth .inside rest := by
  simp [skip]

/-- The units of a text, one after another. -/
theorem forall_of_all {t : Text} {p : UInt16 → Prop} [DecidablePred p]
    (checked : t.all (fun u => decide (p u)) = true) : ∀ u ∈ t, p u := fun u member =>
  of_decide_eq_true (List.all_eq_true.mp checked u member)

theorem hexDigit_plain (n : Nat) : hexDigit n ≠ 34 ∧ hexDigit n ≠ 92 := by
  have digits : ∀ u ∈ text "0123456789abcdef", u ≠ 34 ∧ u ≠ 92 :=
    forall_of_all (by decide +kernel)
  unfold hexDigit
  cases found : (text "0123456789abcdef")[n]? with
  | none => decide
  | some u => exact digits u (List.mem_of_getElem? found)

theorem skip_unicodeEscape (u : UInt16) (depth : Nat) (rest : Text) :
    skip depth .inside (unicodeEscape u ++ rest) = skip depth .inside rest := by
  have digit (n : Nat) (more : Text) :
      skip depth .inside (hexDigit n :: more) = skip depth .inside more :=
    skip_inside (hexDigit_plain n).1 (hexDigit_plain n).2
  simp only [unicodeEscape, List.cons_append, List.nil_append, skip_escaped, digit]

theorem skip_quoteUnit (u : UInt16) (depth : Nat) (rest : Text) :
    skip depth .inside (quoteUnit u ++ rest) = skip depth .inside rest := by
  unfold quoteUnit
  split_ifs with h₁ h₂ h₃ h₄ h₅ special control
  · rfl
  · rfl
  · rfl
  · rfl
  · rfl
  · simp [skip]
  · exact skip_unicodeEscape u depth rest
  · obtain ⟨quote, slash⟩ := not_or.mp special
    exact skip_inside quote slash

theorem surrogate_plain {u : UInt16} (surrogate : leading u = true ∨ trailing u = true) :
    u ≠ 34 ∧ u ≠ 92 := by
  constructor
  all_goals
    rintro rfl
    revert surrogate
    decide

theorem skip_quoteUnits (s : Text) (depth : Nat) (rest : Text) :
    skip depth .inside (quoteUnits s ++ rest) = skip depth .inside rest := by
  fun_induction quoteUnits s with
  | case1 => rfl
  | case2 u => exact skip_quoteUnit u depth rest
  | case3 u v more pair ih =>
    obtain ⟨first, second⟩ := Bool.and_eq_true_iff.mp pair
    obtain ⟨quote, slash⟩ := surrogate_plain (.inl first)
    obtain ⟨quote', slash'⟩ := surrogate_plain (.inr second)
    rw [List.cons_append, skip_inside quote slash, List.cons_append, skip_inside quote' slash', ih]
  | case4 u v more single ih => rw [List.append_assoc, skip_quoteUnit, ih]

theorem quoteUnits_cons {u : UInt16} (single : leading u = false) (s : Text) :
    quoteUnits (u :: s) = quoteUnit u ++ quoteUnits s := by
  cases s with
  | nil => simp [quoteUnits]
  | cons v rest => simp [quoteUnits, single]

theorem quoteUnit_ne_nil (u : UInt16) : quoteUnit u ≠ [] := by
  unfold quoteUnit
  split_ifs <;> simp [unicodeEscape]

theorem quoteUnits_ne_nil {s : Text} (filled : s ≠ []) : quoteUnits s ≠ [] := by
  fun_cases quoteUnits s with
  | case1 => contradiction
  | case2 u => exact quoteUnit_ne_nil u
  | case3 u v more pair => simp
  | case4 u v more single => simp [quoteUnit_ne_nil]

theorem skip_quote (s : Text) (depth : Nat) (rest : Text) :
    skip depth .outside (quote s ++ rest) = if depth = 0 then rest else skip depth .outside rest := by
  have opened : skip depth .outside (quote s ++ rest) =
      skip depth .inside (quoteUnits s ++ 34 :: rest) := by
    simp [quote, skip]
  rw [opened, skip_quoteUnits]
  simp [skip]

/-- Literals and numbers. -/
theorem skip_plain {a : Text} (plain : ∀ u ∈ a, u ∉ structural) (depth : Nat) (rest : Text) :
    skip depth .outside (a ++ rest) = skip depth .outside rest := by
  induction a with
  | nil => rfl
  | cons u more ih =>
    have here := plain u (by simp)
    simp only [structural, List.mem_cons, List.not_mem_nil, or_false, not_or] at here
    rw [List.cons_append, skip]
    simp only [here, false_or, and_false, if_false]
    exact ih fun v member => plain v (by simp [member])

theorem literal_plain : ∀ a ∈ [text "null", text "true", text "false"], ∀ u ∈ a, u ∉ structural := by
  intro a member
  simp only [List.mem_cons, List.not_mem_nil, or_false] at member
  rcases member with rfl | rfl | rfl <;> exact forall_of_all (by decide +kernel)

section Values
variable {Number : Type} {format : NumberFormat Number}

/-- An induction over a value and all values in it. -/
theorem Value.induct {P : Value Number → Prop} (null : P .null) (bool : ∀ b, P (.bool b))
    (number : ∀ n, P (.number n)) (string : ∀ s, P (.string s))
    (array : ∀ items, (∀ v ∈ items, P v) → P (.array items))
    (object : ∀ entries, (∀ e ∈ entries, P e.2) → P (.object entries)) (v : Value Number) : P v := by
  refine @Value.rec Number P (fun items => ∀ v ∈ items, P v) (fun entries => ∀ e ∈ entries, P e.2)
    (fun e => P e.2) null bool number string array object ?_ ?_ ?_ ?_ ?_ v
  · simp
  · intro v rest here ih
    exact List.forall_mem_cons.mpr ⟨here, ih⟩
  · simp
  · intro e rest here ih
    exact List.forall_mem_cons.mpr ⟨here, ih⟩
  · exact fun _ _ here => here

theorem skip_open {u : UInt16} {depth : Nat} {rest : Text} (bracket : u = 91 ∨ u = 123) :
    skip depth .outside (u :: rest) = skip (depth + 1) .outside rest := by
  rcases bracket with rfl | rfl <;> simp [skip]

theorem skip_close {u : UInt16} {depth : Nat} {rest : Text} (bracket : u = 93 ∨ u = 125) :
    skip (depth + 2) .outside (u :: rest) = skip (depth + 1) .outside rest := by
  rcases bracket with rfl | rfl <;> simp [skip]

def Lead (lead : Text) : Prop := lead = [] ∨ lead = [44]

theorem skip_lead {lead : Text} (leads : Lead lead) (depth : Nat) (rest : Text) :
    skip (depth + 1) .outside (lead ++ rest) = skip (depth + 1) .outside rest := by
  rcases leads with rfl | rfl <;> simp [skip]

theorem skip_items {items : List (Value Number)} {depth : Nat} {lead rest : Text}
    (within : ∀ v ∈ items, ∀ depth rest,
      skip (depth + 1) .outside (stringify format v ++ rest) = skip (depth + 1) .outside rest)
    (leads : Lead lead) : skip (depth + 1) .outside (stringifyItems format lead items ++ rest) =
      skip (depth + 1) .outside rest := by
  induction items generalizing lead with
  | nil => rfl
  | cons v more ih =>
    rw [stringifyItems, List.append_assoc, List.append_assoc, skip_lead leads, within v (by simp)]
    exact ih (fun v member => within v (by simp [member])) (.inr rfl)

theorem skip_entries {entries : List (Text × Value Number)} {depth : Nat} {lead rest : Text}
    (within : ∀ e ∈ entries, ∀ depth rest,
      skip (depth + 1) .outside (stringify format e.2 ++ rest) = skip (depth + 1) .outside rest)
    (leads : Lead lead) : skip (depth + 1) .outside (stringifyEntries format lead entries ++ rest) =
      skip (depth + 1) .outside rest := by
  induction entries generalizing lead with
  | nil => rfl
  | cons e more ih =>
    have colon (rest : Text) :
        skip (depth + 1) .outside (58 :: rest) = skip (depth + 1) .outside rest := by simp [skip]
    simp only [stringifyEntries, List.append_assoc, List.cons_append]
    rw [skip_lead leads, skip_quote, if_neg (by omega), colon, within e (by simp)]
    exact ih (fun e member => within e (by simp [member])) (.inr rfl)

/-- Within brackets, a value is passed. -/
theorem skip_within (v : Value Number) (depth : Nat) (rest : Text) :
    skip (depth + 1) .outside (stringify format v ++ rest) = skip (depth + 1) .outside rest := by
  induction v using Value.induct generalizing depth rest with
  | null => exact skip_plain (literal_plain (text "null") (by simp)) _ _
  | bool b =>
    cases b with
    | true => exact skip_plain (literal_plain (text "true") (by simp)) _ _
    | false => exact skip_plain (literal_plain (text "false") (by simp)) _ _
  | number n => exact skip_plain (format.plain n) _ _
  | string s => rw [stringify, skip_quote, if_neg (by omega)]
  | array items ih =>
    rw [stringify, List.cons_append, List.cons_append, List.append_assoc, skip_open (.inl rfl),
      skip_items ih (.inl rfl), List.singleton_append, skip_close (.inl rfl)]
  | object entries ih =>
    rw [stringify, List.cons_append, List.cons_append, List.append_assoc, skip_open (.inr rfl),
      skip_entries ih (.inl rfl), List.singleton_append, skip_close (.inr rfl)]

/-- The end of the text, or what stands behind a value in an array or an object. -/
def Delimited (rest : Text) : Prop := ∀ u ∈ rest.head?, u = 44 ∨ u = 93 ∨ u = 125

theorem skip_delimited {rest : Text} (delimited : Delimited rest) : skip 0 .outside rest = rest := by
  cases rest with
  | nil => rfl
  | cons u more =>
    rcases delimited u rfl with rfl | rfl | rfl <;> simp [skip]

theorem skip_bracket {u : UInt16} {rest : Text} (bracket : u = 93 ∨ u = 125) :
    skip 1 .outside (u :: rest) = rest := by
  rcases bracket with rfl | rfl <;> simp [skip]

/-- A value with a delimiter behind it is skipped as a whole. -/
theorem skip_stringify (v : Value Number) {rest : Text} (delimited : Delimited rest) :
    skip 0 .outside (stringify format v ++ rest) = rest := by
  have literal (a : Text) (plain : ∀ u ∈ a, u ∉ structural) : skip 0 .outside (a ++ rest) = rest := by
    rw [skip_plain plain, skip_delimited delimited]
  cases v with
  | null => exact literal _ (literal_plain (text "null") (by simp))
  | bool b =>
    cases b with
    | true => exact literal _ (literal_plain (text "true") (by simp))
    | false => exact literal _ (literal_plain (text "false") (by simp))
  | number n => exact literal _ (format.plain n)
  | string s => rw [stringify, skip_quote, if_pos rfl]
  | array items =>
    rw [stringify, List.cons_append, List.cons_append, List.append_assoc, skip_open (.inl rfl),
      skip_items (fun v _ => skip_within v) (.inl rfl), List.singleton_append, skip_bracket (.inl rfl)]
  | object entries =>
    rw [stringify, List.cons_append, List.cons_append, List.append_assoc, skip_open (.inr rfl),
      skip_entries (fun e _ => skip_within e.2) (.inl rfl), List.singleton_append,
      skip_bracket (.inr rfl)]

/-- Only the text of a string begins with a quote. -/
theorem stringify_head {v : Value Number} (other : ∀ s, v ≠ .string s) :
    (stringify format v).head? ≠ some 34 := by
  have plain {a : Text} (none : ∀ u ∈ a, u ∉ structural) : a.head? ≠ some 34 := by
    intro starts
    exact none 34 (List.mem_of_mem_head? starts) (by decide)
  cases v with
  | null => exact plain (literal_plain (text "null") (by simp))
  | bool b =>
    cases b with
    | true => exact plain (literal_plain (text "true") (by simp))
    | false => exact plain (literal_plain (text "false") (by simp))
  | number n => exact plain (format.plain n)
  | string t => exact absurd rfl (other t)
  | array items => simp [stringify]
  | object entries => simp [stringify]

/-- Two texts that begin with values are equal only if the values have the same text. -/
theorem stringify_append {v w : Value Number} {rest rest' : Text} (delimited : Delimited rest)
    (delimited' : Delimited rest') :
    stringify format v ++ rest = stringify format w ++ rest' ↔
      stringify format v = stringify format w ∧ rest = rest' := by
  constructor
  · intro same
    have ends := congrArg (skip 0 .outside) same
    rw [skip_stringify v delimited, skip_stringify w delimited'] at ends
    subst ends
    exact ⟨List.append_cancel_right same, rfl⟩
  · rintro ⟨same, rfl⟩
    rw [same]

/-- Where they are equal up to a unit behind the first value already, its text is the same. -/
theorem stringify_take {v w : Value Number} {rest rest' : Text} (filled : rest ≠ [])
    (delimited : Delimited rest) (delimited' : Delimited rest') {n : Nat}
    (same : (stringify format v ++ rest).take n = (stringify format w ++ rest').take n) :
    stringify format v = stringify format w ∨ n ≤ (stringify format v).length := by
  by_contra apart
  obtain ⟨different, beyond⟩ := not_or.mp apart
  obtain ⟨u, more, rfl⟩ := List.exists_cons_of_ne_nil filled
  obtain ⟨k, room⟩ : ∃ k, n - (stringify format v).length = k + 1 :=
    ⟨n - (stringify format v).length - 1, by omega⟩
  rw [List.take_append, List.take_of_length_le (by omega), room, List.take_succ_cons] at same
  have whole := List.take_append_drop n (stringify format w ++ rest')
  rw [← same, List.append_assoc, List.cons_append] at whole
  have delimited : Delimited (u :: (more.take k ++ (stringify format w ++ rest').drop n)) :=
    fun _ first => delimited _ first
  exact different ((stringify_append delimited delimited').mp whole).1

end Values

end Json
