import Bitmonie.JsonText

/-! What is stored of the body of a webhook: the values of PII fields are masked in a body that
parses, and a long body is cut. What two bodies that differ in PII only leave behind. -/
namespace Bitmonie.WebhooksLogService
open Json

/-- The runtime: what `JSON.parse` makes of a text, and how numbers are written. -/
structure Runtime where
  Number : Type
  format : NumberFormat Number
  parse : Text → Option (Value Number)

section Redaction
variable {Number : Type}

def piiFields : List Text :=
  [text "payerAccountNo", text "payeeBankAccNo", text "bankAccNo", text "licenseNumber",
    text "bvn", text "nin", text "identityNumber"]

/-- `value.slice(-4)` -/
def lastFour (s : Text) : Text := s.drop (s.length - 4)

def maskValue : Value Number → Value Number
  | .string s =>
    if s.length ≤ 4 then .string (text "****") else .string (text "****" ++ lastFour s)
  | value => value

/-- `out['__proto__'] = …` sets the prototype of `out`, not a property. -/
def protoKey : Text := text "__proto__"

mutual
def redactPiiInPlace : Value Number → Value Number
  | .array items => .array (redactItems items)
  | .object entries => .object (redactEntries entries)
  | node => node

def redactItems : List (Value Number) → List (Value Number)
  | [] => []
  | v :: rest => redactPiiInPlace v :: redactItems rest

/-- The loop that fills `out`. -/
def redactEntries : List (Text × Value Number) → List (Text × Value Number)
  | [] => []
  | (k, v) :: rest =>
    if k = protoKey then redactEntries rest
    else (k, if k ∈ piiFields then maskValue v else redactPiiInPlace v) :: redactEntries rest
end

def maxLength : Nat := 32768

/-- `body.slice(0, MAX_LENGTH) + '…[truncated]'`, where the body is longer. -/
def truncated (body : Text) : Text :=
  if maxLength < body.length then body.take maxLength ++ text "…[truncated]" else body

end Redaction

def redactRawBody (runtime : Runtime) (rawBody : Text) : Text :=
  truncated <| match runtime.parse rawBody with
    | some parsed => stringify runtime.format (redactPiiInPlace parsed)
    | none => rawBody

section Pairs
variable {Number : Type} {format : NumberFormat Number}

/-- What may be assumed of two values of a PII field. -/
def SharesTail (v w : Value Number) : Prop :=
  ∀ s t, v = .string s → w = .string t → s ≠ t → 4 < s.length → 4 < t.length →
    lastFour s = lastFour t

mutual
/-- Equal except at the values of PII fields, at any depth. -/
def SameButPii : Value Number → Value Number → Prop
  | .array items, .array others => SameItems items others
  | .object entries, .object others => SameEntries entries others
  | v, w => v = w

def SameItems : List (Value Number) → List (Value Number) → Prop
  | [], [] => True
  | v :: rest, w :: others => SameButPii v w ∧ SameItems rest others
  | _, _ => False

def SameEntries : List (Text × Value Number) → List (Text × Value Number) → Prop
  | [], [] => True
  | (k, v) :: rest, (l, w) :: others =>
    k = l ∧ (if k ∈ piiFields then SharesTail v w else SameButPii v w) ∧ SameEntries rest others
  | _, _ => False
end

/-- Two values of a PII field that leave the same text: two strings of at most four characters,
two longer ones, or two other values with the same text, which nothing masks. -/
inductive MaskedAlike (format : NumberFormat Number) : Value Number → Value Number → Prop
  | strings (s t : Text) : (s.length ≤ 4 ↔ t.length ≤ 4) →
      MaskedAlike format (.string s) (.string t)
  | others : (∀ s, v ≠ .string s) → (∀ t, w ≠ .string t) →
      stringify format v = stringify format w → MaskedAlike format v w

/-- Two values of a PII field that leave the same first `room` units of text. The mask of a
string of at most four characters is that of a longer one up to its closing quote; a string and
another value differ in their first unit. -/
inductive StartAlike (format : NumberFormat Number) (room : Nat) : Value Number → Value Number → Prop
  | alike : MaskedAlike format v w → StartAlike format room v w
  | masks (s t : Text) : room ≤ 5 → StartAlike format room (.string s) (.string t)
  | none : room = 0 → StartAlike format room v w
  | others : (∀ s, v ≠ .string s) → (∀ t, w ≠ .string t) →
      (stringify format v).take room = (stringify format w).take room → StartAlike format room v w

mutual
/-- So are the values of each PII field that stands within the first `room` units of what is
stored of two bodies: those that stand before it take up their part. -/
def AlikeWithin (format : NumberFormat Number) : Nat → Value Number → Value Number → Prop
  | room, .array items, .array others => AlikeItems format (room - 1) [] items others
  | room, .object entries, .object others => AlikeEntries format (room - 1) [] entries others
  | _, _, _ => True

def AlikeItems (format : NumberFormat Number) :
    Nat → Text → List (Value Number) → List (Value Number) → Prop
  | room, lead, v :: rest, w :: others =>
    let here := room - lead.length
    AlikeWithin format here v w ∧
      AlikeItems format (here - (stringify format (redactPiiInPlace v)).length) [44] rest others
  | _, _, _, _ => True

def AlikeEntries (format : NumberFormat Number) :
    Nat → Text → List (Text × Value Number) → List (Text × Value Number) → Prop
  | room, lead, (k, v) :: rest, (_, w) :: others =>
    if k = protoKey then AlikeEntries format room lead rest others
    else
      let here := room - (lead ++ quote k ++ [58]).length
      let stored := if k ∈ piiFields then maskValue v else redactPiiInPlace v
      (if k ∈ piiFields then StartAlike format here v w else AlikeWithin format here v w) ∧
        AlikeEntries format (here - (stringify format stored).length) [44] rest others
  | _, _, _, _ => True
end

theorem mask_eq : text "****" = [42, 42, 42, 42] := by decide +kernel

theorem quote_mask (s : Text) : quoteUnits (text "****" ++ s) = text "****" ++ quoteUnits s := by
  have star (s : Text) : quoteUnits (42 :: s) = 42 :: quoteUnits s :=
    quoteUnits_cons (by decide) s
  simp [mask_eq, star]

/-- The mask of a string is as long as the string is only where the string was cut. -/
theorem quote_mask_ne {s : Text} (filled : s ≠ []) :
    quote (text "****") ≠ quote (text "****" ++ s) := by
  intro same
  have bare := quote_mask []
  rw [List.append_nil] at bare
  have shown := quoteUnits_ne_nil filled
  rw [quote, quote, quote_mask, bare] at same
  simp [quoteUnits] at same
  exact shown same

theorem lastFour_ne_nil {s : Text} (long : 4 < s.length) : lastFour s ≠ [] := by
  rw [lastFour, ne_eq, List.drop_eq_nil_iff]
  omega

theorem maskValue_other {v : Value Number} (other : ∀ s, v ≠ .string s) : maskValue v = v := by
  cases v with
  | string s => exact absurd rfl (other s)
  | _ => rfl

theorem maskValue_string (s : Text) : ∃ t, maskValue (.string s : Value Number) = .string t := by
  rw [maskValue]
  split_ifs <;> exact ⟨_, rfl⟩

theorem maskedAlike_strings {s t : Text} :
    MaskedAlike format (.string s : Value Number) (.string t) ↔ (s.length ≤ 4 ↔ t.length ≤ 4) := by
  constructor
  · rintro (⟨_, _, alike⟩ | ⟨other, -, -⟩)
    · exact alike
    · exact absurd rfl (other s)
  · exact .strings s t

theorem maskValue_strings {s t : Text}
    (shares : SharesTail (.string s : Value Number) (.string t)) :
    stringify format (maskValue (.string s)) = stringify format (maskValue (.string t)) ↔
      (s.length ≤ 4 ↔ t.length ≤ 4) := by
  by_cases short : s.length ≤ 4 <;> by_cases short' : t.length ≤ 4 <;>
    simp only [maskValue, short, short', if_true, if_false, stringify, iff_true, iff_false,
      not_true_eq_false]
  · exact quote_mask_ne (lastFour_ne_nil (by omega))
  · exact fun same => quote_mask_ne (lastFour_ne_nil (by omega)) same.symm
  · by_cases same : s = t
    · rw [same]
    · rw [shares s t rfl rfl same (by omega) (by omega)]

/-- A closing quote is no unit of a string. -/
theorem quoteUnits_head {s : Text} : (quoteUnits s).head? ≠ some 34 := by
  have unit (u : UInt16) (more : Text) : (quoteUnit u ++ more).head? ≠ some 34 := by
    unfold quoteUnit
    split_ifs with h₁ h₂ h₃ h₄ h₅ special <;> simp [unicodeEscape]
    exact (not_or.mp special).1
  fun_cases quoteUnits s with
  | case1 => simp
  | case2 u => simpa using unit u []
  | case3 u v more pair =>
    have first := (surrogate_plain (.inl (Bool.and_eq_true_iff.mp pair).1)).1
    simpa using first
  | case4 u v more single => exact unit u _

/-- The mask alone ends where the units of a longer string begin. -/
theorem take_masks {s : Text} (filled : s ≠ []) {room : Nat} :
    (quote (text "****")).take room = (quote (text "****" ++ s)).take room ↔ room ≤ 5 := by
  have bare := quote_mask []
  rw [List.append_nil] at bare
  obtain ⟨u, more, shown⟩ := List.exists_cons_of_ne_nil (quoteUnits_ne_nil filled)
  have other : u ≠ 34 := by
    have head := @quoteUnits_head s
    rw [shown] at head
    simpa using head
  rw [quote, quote, quote_mask, bare, shown, mask_eq]
  constructor
  · intro same
    by_contra long
    obtain ⟨k, rfl⟩ : ∃ k, room = k + 6 := ⟨room - 6, by omega⟩
    simp [quoteUnits] at same
    exact other same.1.symm
  · intro short
    have common (more : Text) : (34 :: ([42, 42, 42, 42] ++ more) ++ [34]).take room =
        [34, 42, 42, 42, 42].take room := by
      rw [show (34 :: ([42, 42, 42, 42] ++ more) ++ [34] : Text) =
        [34, 42, 42, 42, 42] ++ (more ++ [34]) by simp]
      exact List.take_append_of_le_length short
    rw [common, common]

theorem startAlike_strings {s t : Text} {room : Nat} :
    StartAlike format room (.string s : Value Number) (.string t) ↔
      (s.length ≤ 4 ↔ t.length ≤ 4) ∨ room ≤ 5 := by
  constructor
  · rintro (alike | ⟨-, -, short⟩ | none | ⟨other, -, -⟩)
    · exact .inl (maskedAlike_strings.mp alike)
    · exact .inr short
    · exact .inr (by omega)
    · exact absurd rfl (other s)
  · rintro (same | short)
    · exact .alike (.strings s t same)
    · exact .masks s t short

/-- The masks of a short string and of a long one. -/
theorem take_strings {s t : Text} (shares : SharesTail (.string s : Value Number) (.string t))
    {room : Nat} :
    (stringify format (maskValue (.string s))).take room =
        (stringify format (maskValue (.string t))).take room ↔
      StartAlike format room (.string s : Value Number) (.string t) := by
  rw [startAlike_strings]
  by_cases same : s.length ≤ 4 ↔ t.length ≤ 4
  · rw [(maskValue_strings shares).mpr same]
    exact iff_of_true rfl (.inl same)
  · simp only [same, false_or]
    by_cases short : s.length ≤ 4
    · have long : ¬t.length ≤ 4 := fun short' => same (iff_of_true short short')
      simp only [maskValue, short, long, if_true, if_false, stringify]
      exact take_masks (lastFour_ne_nil (by omega))
    · have short' : t.length ≤ 4 := by_contra fun long => same (iff_of_false short long)
      simp only [maskValue, short, short', if_true, if_false, stringify]
      exact eq_comm.trans (take_masks (lastFour_ne_nil (by omega)))

/-- A string and another value. -/
theorem take_mixed {w : Value Number} (s : Text) (other : ∀ t, w ≠ .string t) {room : Nat} :
    (stringify format (maskValue (.string s))).take room = (stringify format (maskValue w)).take room ↔
      room = 0 := by
  obtain ⟨t, masked⟩ := @maskValue_string Number s
  rw [masked, maskValue_other other]
  constructor
  · intro same
    by_contra some_
    have first := congrArg List.head? same
    rw [List.head?_take, List.head?_take, if_neg some_, if_neg some_] at first
    exact stringify_head other first.symm
  · rintro rfl
    rfl

theorem take_masked {v w : Value Number} (shares : SharesTail v w) {room : Nat} :
    (stringify format (maskValue v)).take room = (stringify format (maskValue w)).take room ↔
      StartAlike format room v w := by
  by_cases first : ∃ s, v = .string s
  · obtain ⟨s, rfl⟩ := first
    by_cases second : ∃ t, w = .string t
    · obtain ⟨t, rfl⟩ := second
      exact take_strings shares
    · have other := not_exists.mp second
      rw [take_mixed s other]
      constructor
      · exact .none
      · rintro ((_ | ⟨none, -, -⟩) | ⟨_, _, _⟩ | none | ⟨none, -, -⟩)
        · exact absurd rfl (other _)
        · exact absurd rfl (none s)
        · exact absurd rfl (other _)
        · exact none
        · exact absurd rfl (none s)
  · have other := not_exists.mp first
    by_cases second : ∃ t, w = .string t
    · obtain ⟨t, rfl⟩ := second
      rw [eq_comm, take_mixed t other]
      constructor
      · exact .none
      · rintro ((_ | ⟨-, none, -⟩) | ⟨_, _, _⟩ | none | ⟨-, none, -⟩)
        · exact absurd rfl (other _)
        · exact absurd rfl (none t)
        · exact absurd rfl (other _)
        · exact none
        · exact absurd rfl (none t)
    · have other' := not_exists.mp second
      rw [maskValue_other other, maskValue_other other']
      constructor
      · exact .others other other'
      · rintro ((_ | ⟨-, -, same⟩) | ⟨_, _, _⟩ | rfl | ⟨-, -, same⟩)
        · exact absurd rfl (other _)
        · rw [same]
        · exact absurd rfl (other _)
        · rfl
        · exact same

/-- What two texts have in common is no matter of what comes behind it. -/
theorem take_append_iff {a x y : Text} {n : Nat} :
    (a ++ x).take n = (a ++ y).take n ↔ x.take (n - a.length) = y.take (n - a.length) := by
  rw [List.take_append, List.take_append, List.append_cancel_left_eq]

theorem length_of_take_ne {a b : Text} {n : Nat} (same : a.take n = b.take n) (different : a ≠ b) :
    n ≤ a.length ∧ n ≤ b.length := by
  have lengths := congrArg List.length same
  rw [List.length_take, List.length_take] at lengths
  by_contra short
  obtain ⟨short, short'⟩ : a.length ≤ n ∧ b.length ≤ n := by omega
  rw [List.take_of_length_le short, List.take_of_length_le short'] at same
  exact different same

/-- Two bodies of which one is read as far as the other: what is the same of them is a matter of
the values up to there, and of what follows from there on. -/
def ReadTogether (a b : Text) (alike : Nat → Prop) : Prop :=
  ∀ room rest rest', (a ++ rest).take room = (b ++ rest').take room ↔
    alike room ∧ rest.take (room - a.length) = rest'.take (room - a.length)

theorem masked_together {v w : Value Number} (shares : SharesTail v w) {room : Nat}
    {rest rest' : Text} (filled : rest ≠ []) (filled' : rest' ≠ []) (delimited : Delimited rest)
    (delimited' : Delimited rest') :
    (stringify format (maskValue v) ++ rest).take room =
        (stringify format (maskValue w) ++ rest').take room ↔
      StartAlike format room v w ∧
        rest.take (room - (stringify format (maskValue v)).length) =
          rest'.take (room - (stringify format (maskValue v)).length) := by
  rw [← take_masked shares]
  by_cases texts : stringify format (maskValue v) = stringify format (maskValue w)
  · simp only [texts, take_append_iff, true_and]
  · constructor
    · intro same
      have room_v := (stringify_take filled delimited delimited' same).resolve_left texts
      have room_w := (stringify_take filled' delimited' delimited same.symm).resolve_left
        (Ne.symm texts)
      rw [List.take_append_of_le_length room_v, List.take_append_of_le_length room_w] at same
      exact ⟨same, by simp [Nat.sub_eq_zero_of_le room_v]⟩
    · rintro ⟨same, -⟩
      obtain ⟨room_v, room_w⟩ := length_of_take_ne same texts
      rw [List.take_append_of_le_length room_v, List.take_append_of_le_length room_w, same]

theorem items_together {items others : List (Value Number)} {lead : Text}
    (within : ∀ v ∈ items, ∀ w, SameButPii v w →
      ReadTogether (stringify format (redactPiiInPlace v)) (stringify format (redactPiiInPlace w))
        fun room => AlikeWithin format room v w)
    (same : SameItems items others) :
    ReadTogether (stringifyItems format lead (redactItems items))
      (stringifyItems format lead (redactItems others))
      fun room => AlikeItems format room lead items others := by
  induction items generalizing others lead with
  | nil =>
    cases others with
    | nil => simp [ReadTogether, AlikeItems, take_append_iff]
    | cons w more => cases same
  | cons v rest ih =>
    cases others with
    | nil => cases same
    | cons w more =>
      obtain ⟨here, later⟩ := same
      intro room tail tail'
      have next := @ih more [44] (fun v member => within v (by simp [member])) later
      simp only [redactItems, stringifyItems, List.append_assoc, take_append_iff, AlikeItems]
      rw [within v (by simp) w here, next, and_assoc]
      simp only [List.length_append, Nat.sub_sub, Nat.add_assoc]

theorem delimited_tail {entries : List (Text × Value Number)} {rest : Text} :
    Delimited (stringifyEntries format [44] entries ++ 125 :: rest) := by
  cases entries <;> simp [Delimited, stringifyEntries]

/-- Entries are read up to the brace behind them. -/
theorem entries_together {entries others : List (Text × Value Number)} {lead : Text}
    (within : ∀ e ∈ entries, ∀ w, SameButPii e.2 w →
      ReadTogether (stringify format (redactPiiInPlace e.2)) (stringify format (redactPiiInPlace w))
        fun room => AlikeWithin format room e.2 w)
    (same : SameEntries entries others) (room : Nat) (rest rest' : Text) :
    (stringifyEntries format lead (redactEntries entries) ++ 125 :: rest).take room =
        (stringifyEntries format lead (redactEntries others) ++ 125 :: rest').take room ↔
      AlikeEntries format room lead entries others ∧
        (125 :: rest).take (room - (stringifyEntries format lead (redactEntries entries)).length) =
          (125 :: rest').take
            (room - (stringifyEntries format lead (redactEntries entries)).length) := by
  induction entries generalizing others lead room with
  | nil =>
    cases others with
    | nil => simp [AlikeEntries, redactEntries, stringifyEntries]
    | cons w more => cases same
  | cons e entries ih =>
    cases others with
    | nil => cases same
    | cons e' others =>
      obtain ⟨k, v⟩ := e
      obtain ⟨l, w⟩ := e'
      obtain ⟨rfl, here, later⟩ := same
      have next (lead : Text) (room : Nat) :=
        @ih others lead (fun e member => within e (by simp [member])) later room
      by_cases proto : k = protoKey
      · simp only [redactEntries, AlikeEntries, proto, if_true]
        exact next lead room
      · have front (x : Text) : lead ++ (quote k ++ 58 :: x) = (lead ++ quote k ++ [58]) ++ x := by
          simp
        simp only [redactEntries, proto, if_false, stringifyEntries, List.append_assoc,
          List.cons_append, AlikeEntries]
        simp only [front, take_append_iff, List.append_nil]
        by_cases pii : k ∈ piiFields
        · simp only [pii, if_true] at here ⊢
          rw [masked_together here (by simp) (by simp) delimited_tail delimited_tail, next, and_assoc]
          simp only [List.length_append, Nat.sub_sub, Nat.add_assoc]
        · simp only [pii, if_false] at here ⊢
          rw [within (k, v) (by simp) w here, next, and_assoc]
          simp only [List.length_append, Nat.sub_sub, Nat.add_assoc]

theorem bracketed_together {open_ close : UInt16} {a b : Text} {alike : Nat → Prop}
    (inner : ∀ room rest rest', (a ++ close :: rest).take room = (b ++ close :: rest').take room ↔
      alike room ∧ (close :: rest).take (room - a.length) = (close :: rest').take (room - a.length)) :
    ReadTogether (open_ :: a ++ [close]) (open_ :: b ++ [close]) fun room => alike (room - 1) := by
  intro room rest rest'
  simp only [List.cons_append, List.append_assoc, List.nil_append, List.length_cons,
    List.length_append, List.length_nil]
  cases room with
  | zero => simpa using (inner 0 rest rest').mp rfl
  | succ room =>
    rw [List.take_succ_cons, List.take_succ_cons, List.cons.injEq, inner]
    simp only [true_and, Nat.add_sub_cancel]
    refine and_congr_right fun _ => ?_
    rcases Nat.eq_zero_or_pos (room - a.length) with none | some_
    · rw [none, show room + 1 - (a.length + 1 + 1) = 0 by omega]
      simp
    · obtain ⟨left, more⟩ := Nat.exists_eq_add_of_lt some_
      rw [show room - a.length = left + 1 by omega, List.take_succ_cons, List.take_succ_cons, List.cons.injEq,
        show room + 1 - (a.length + 1 + 1) = left by omega]
      simp

/-- What is stored of two bodies, read as far as there is room. -/
theorem redacted_together {v w : Value Number} (same : SameButPii v w) :
    ReadTogether (stringify format (redactPiiInPlace v)) (stringify format (redactPiiInPlace w))
      fun room => AlikeWithin format room v w := by
  have still (v : Value Number) : ReadTogether (stringify format (redactPiiInPlace v))
      (stringify format (redactPiiInPlace v)) fun _ => True := by
    simp [ReadTogether, take_append_iff]
  induction v using Value.induct generalizing w with
  | array items ih =>
    cases w with
    | array others =>
      simp only [redactPiiInPlace, stringify, AlikeWithin]
      exact bracketed_together fun room rest rest' =>
        items_together (fun v member _ => ih v member) same room (93 :: rest) (93 :: rest')
    | _ => cases same
  | object entries ih =>
    cases w with
    | object others =>
      simp only [redactPiiInPlace, stringify, AlikeWithin]
      exact bracketed_together (entries_together (fun e member _ => ih e member) same)
    | _ => cases same
  | null =>
    obtain rfl : Value.null = w := same
    simpa only [AlikeWithin] using still .null
  | bool b =>
    obtain rfl : Value.bool b = w := same
    simpa only [AlikeWithin] using still (.bool b)
  | number n =>
    obtain rfl : Value.number n = w := same
    simpa only [AlikeWithin] using still (.number n)
  | string s =>
    obtain rfl : Value.string s = w := same
    simpa only [AlikeWithin] using still (.string s)

end Pairs

/-- Neither text ends where the other one goes on. -/
theorem cut_together {a b : Text} {alike : Nat → Prop} (together : ReadTogether a b alike)
    {n : Nat} (same : a.take n = b.take n) : n < a.length ↔ n < b.length := by
  constructor
  · intro long
    by_contra ends
    rw [List.take_of_length_le (l := b) (by omega)] at same
    have length : b.length = n := by rw [← same, List.length_take]; omega
    have goes_on : (a ++ []).take (n + 1) = (b ++ [a[n]]).take (n + 1) := by
      rw [List.append_nil, List.take_succ_eq_append_getElem long, same,
        List.take_of_length_le (by simp [length])]
    have stops := (together (n + 1) [] []).mpr ⟨((together _ _ _).mp goes_on).1, rfl⟩
    have lengths := congrArg List.length stops
    simp only [List.append_nil, List.length_take] at lengths
    omega
  · intro long
    by_contra ends
    rw [List.take_of_length_le (l := a) (by omega)] at same
    have length : a.length = n := by rw [same, List.length_take]; omega
    have goes_on : (a ++ [b[n]]).take (n + 1) = (b ++ []).take (n + 1) := by
      rw [List.append_nil, List.take_succ_eq_append_getElem long, ← same,
        List.take_of_length_le (by simp [length])]
    simpa [length] using ((together _ _ _).mp goes_on).2

theorem truncated_length {body : Text} (long : maxLength < body.length) :
    maxLength < (truncated body).length := by
  have suffix : 0 < (text "…[truncated]").length := by decide +kernel
  rw [truncated, if_pos long, List.length_append, List.length_take_of_le (by omega)]
  omega

/-- A text that is cut is longer than one that is not. -/
theorem truncated_sides {a b : Text} (same : truncated a = truncated b) :
    maxLength < a.length ↔ maxLength < b.length := by
  constructor
  · intro long
    by_contra ends
    have cut := truncated_length long
    rw [same, truncated, if_neg ends] at cut
    exact ends cut
  · intro long
    by_contra ends
    have cut := truncated_length long
    rw [← same, truncated, if_neg ends] at cut
    exact ends cut

theorem truncated_eq_iff {a b : Text} (sides : maxLength < a.length ↔ maxLength < b.length) :
    truncated a = truncated b ↔ a.take maxLength = b.take maxLength := by
  by_cases long : maxLength < a.length
  · rw [truncated, truncated, if_pos long, if_pos (sides.mp long), List.append_left_inj]
  · have short : b.length ≤ maxLength := Nat.not_lt.mp (mt sides.mpr long)
    rw [truncated, truncated, if_neg long, if_neg (Nat.not_lt.mpr short),
      List.take_of_length_le (Nat.not_lt.mp long), List.take_of_length_le short]

/-- Two bodies that differ in PII only leave the same text if and only if no value of a PII
field tells them apart within what is stored. -/
theorem redactRawBody_eq_iff {runtime : Runtime} {body body' : Text}
    {v w : Value runtime.Number} (parses : runtime.parse body = some v)
    (parses' : runtime.parse body' = some w) (same : SameButPii v w) :
    redactRawBody runtime body = redactRawBody runtime body' ↔
      AlikeWithin runtime.format maxLength v w := by
  have together := @redacted_together _ runtime.format _ _ same
  have here := together maxLength [] []
  simp only [List.append_nil, List.take_nil, and_true] at here
  rw [redactRawBody, redactRawBody, parses, parses', ← here]
  constructor
  · exact fun stored => (truncated_eq_iff (truncated_sides stored)).mp stored
  · exact fun same => (truncated_eq_iff (cut_together together same)).mpr same

def literalFormat : NumberFormat {digits : Text // ∀ u ∈ digits, u ∉ structural} where
  text := Subtype.val
  plain n := n.property

def runtimeOf (values : List (Value {digits : Text // ∀ u ∈ digits, u ∉ structural})) :
    Runtime where
  Number := {digits : Text // ∀ u ∈ digits, u ∉ structural}
  format := literalFormat
  parse body := values.find? fun v => stringify literalFormat v = body

def bvnBody (bvn : Value {digits : Text // ∀ u ∈ digits, u ∉ structural}) :
    Value {digits : Text // ∀ u ∈ digits, u ∉ structural} :=
  .object [(text "bvn", bvn)]

def stringBody : Value {digits : Text // ∀ u ∈ digits, u ∉ structural} :=
  bvnBody (.string (text "22212345678"))

def stringBody' : Value {digits : Text // ∀ u ∈ digits, u ∉ structural} :=
  bvnBody (.string (text "99912345678"))

def numberBody : Value {digits : Text // ∀ u ∈ digits, u ∉ structural} :=
  bvnBody (.number ⟨text "22212345678", forall_of_all (by decide +kernel)⟩)

def numberBody' : Value {digits : Text // ∀ u ∈ digits, u ∉ structural} :=
  bvnBody (.number ⟨text "22212345679", forall_of_all (by decide +kernel)⟩)

theorem bvn_pii : text "bvn" ∈ piiFields := by decide +kernel

theorem bvn_same (v w : Value {digits : Text // ∀ u ∈ digits, u ∉ structural})
    (shares : SharesTail v w) : SameButPii (bvnBody v) (bvnBody w) := by
  simp [bvnBody, SameButPii, SameEntries, bvn_pii, shares]

theorem bvn_strings_hidden :
    redactRawBody (runtimeOf [stringBody, stringBody']) (stringify literalFormat stringBody) =
      redactRawBody (runtimeOf [stringBody, stringBody']) (stringify literalFormat stringBody') := by
  have shares : SharesTail (.string (text "22212345678") : Value {digits : Text // ∀ u ∈ digits,
      u ∉ structural}) (.string (text "99912345678")) := by
    intro s t first second _ _ _
    cases first
    cases second
    decide +kernel
  refine (redactRawBody_eq_iff (v := stringBody) (w := stringBody') rfl rfl
    (bvn_same _ _ shares)).mpr ?_
  have alike (room : Nat) := @StartAlike.alike _ literalFormat room _ _
    (.strings (text "22212345678") (text "99912345678") (by decide +kernel))
  simp [stringBody, stringBody', bvnBody, AlikeWithin, AlikeEntries, bvn_pii, runtimeOf, alike]

/-- A number is stored as it came. -/
theorem bvn_number_stored :
    (runtimeOf [numberBody, numberBody']).parse (stringify literalFormat numberBody) = some numberBody ∧
    (runtimeOf [numberBody, numberBody']).parse (stringify literalFormat numberBody') =
      some numberBody' ∧
    SameButPii numberBody numberBody' ∧
    redactRawBody (runtimeOf [numberBody, numberBody']) (stringify literalFormat numberBody) ≠
      redactRawBody (runtimeOf [numberBody, numberBody']) (stringify literalFormat numberBody') := by
  refine ⟨rfl, rfl, bvn_same _ _ fun s t first => ?_, by decide +kernel⟩
  cases first

end Bitmonie.WebhooksLogService
