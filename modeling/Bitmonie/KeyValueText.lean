import Mathlib.Data.List.Basic

/-! Key-value text without escapes: each entry is `key ++ eq :: value`, and entries are
joined by `amp`. The text determines its entries when keys hold neither separator and no
value holds an `eq` after an `amp`. Over any alphabet. -/
namespace Bitmonie.KeyValueText
variable {α : Type} {amp eq : α}

abbrev Entry (α : Type) := List α × List α

def entryText (eq : α) (e : Entry α) : List α := e.1 ++ eq :: e.2

def encode (amp eq : α) (entries : List (Entry α)) : List α :=
  [amp].intercalate (entries.map (entryText eq))

/-- Nothing inside the entry reads as the start of another one. -/
structure Plain (amp eq : α) (e : Entry α) : Prop where
  key_amp : amp ∉ e.1
  key_eq : eq ∉ e.1
  value : ∀ before after, e.2 = before ++ amp :: after → eq ∉ after

def encodeRest (amp eq : α) : List (Entry α) → List α
  | [] => []
  | e :: rest => amp :: encode amp eq (e :: rest)

@[simp] theorem encode_nil : encode amp eq [] = [] := rfl

theorem encode_cons (e : Entry α) (rest : List (Entry α)) :
    encode amp eq (e :: rest) = e.1 ++ eq :: (e.2 ++ encodeRest amp eq rest) := by
  cases rest with
  | nil => simp [encode, encodeRest, entryText]
  | cons next rest => simp [encode, encodeRest, entryText, List.intercalate]

theorem encode_cons_ne_nil (e : Entry α) (rest : List (Entry α)) :
    encode amp eq (e :: rest) ≠ [] := by simp [encode_cons]

theorem encodeRest_injective {rest rest' : List (Entry α)}
    (same : encodeRest amp eq rest = encodeRest amp eq rest') :
    encode amp eq rest = encode amp eq rest' := by
  cases rest <;> cases rest' <;> simp_all [encodeRest]

/-- A value that runs on past a separator would hold the `eq` of the next entry. -/
theorem no_excess (ne : amp ≠ eq) {rest : List (Entry α)} {before excess after : List α}
    (plain : ∀ e ∈ rest, Plain amp eq e)
    (value : ∀ x y, before ++ excess = x ++ amp :: y → eq ∉ y)
    (tail : encodeRest amp eq rest = excess ++ after)
    (next : ∀ a y, after = a :: y → a = amp) : excess = [] := by
  cases rest with
  | nil => exact (List.append_eq_nil_iff.mp tail.symm).1
  | cons e rest =>
    cases excess with
    | nil => rfl
    | cons a excess =>
      obtain ⟨rfl, text⟩ := List.cons.inj tail
      have clean : eq ∉ excess := value before excess rfl
      have key := plain e (by simp)
      rw [encode_cons] at text
      rcases List.append_eq_append_iff.mp text with ⟨u, rfl, split⟩ | ⟨u, whole, split⟩
      · cases u with
        | nil => exact absurd (next eq _ split.symm).symm ne
        | cons b u =>
          obtain ⟨rfl, -⟩ := List.cons.inj split
          exact absurd (by simp) clean
      · cases u with
        | nil => exact absurd (next eq _ (by simpa using split)).symm ne
        | cons b u =>
          have first : b = amp := next b _ split
          exact absurd (by simp [whole, first]) key.key_amp

/-- The first `eq` ends the key. -/
theorem key_unique {key key' value value' : List α} (clean : eq ∉ key) (clean' : eq ∉ key')
    (same : key ++ eq :: value = key' ++ eq :: value') : key = key' ∧ value = value' := by
  rcases List.append_eq_append_iff.mp same with ⟨u, rfl, split⟩ | ⟨u, rfl, split⟩
  · cases u with
    | nil => exact ⟨by simp, (List.cons.inj split).2⟩
    | cons b u =>
      obtain ⟨rfl, -⟩ := List.cons.inj split
      exact absurd (by simp) clean'
  · cases u with
    | nil => exact ⟨by simp, (List.cons.inj split).2.symm⟩
    | cons b u =>
      obtain ⟨rfl, -⟩ := List.cons.inj split
      exact absurd (by simp) clean

theorem value_unique (ne : amp ≠ eq) {e e' : Entry α} {rest rest' : List (Entry α)}
    (plain : ∀ d ∈ e :: rest, Plain amp eq d) (plain' : ∀ d ∈ e' :: rest', Plain amp eq d)
    (same : e.2 ++ encodeRest amp eq rest = e'.2 ++ encodeRest amp eq rest') :
    e.2 = e'.2 ∧ encodeRest amp eq rest = encodeRest amp eq rest' := by
  have amps (rest : List (Entry α)) (a : α) (y : List α)
      (starts : encodeRest amp eq rest = a :: y) : a = amp := by
    cases rest with
    | nil => cases starts
    | cons d rest => exact (List.cons.inj starts).1.symm
  rcases List.append_eq_append_iff.mp same with ⟨u, longer, split⟩ | ⟨u, longer, split⟩
  · obtain rfl := no_excess ne (fun d member => plain d (List.mem_cons_of_mem _ member))
      (longer ▸ (plain' e' (by simp)).value) split (amps rest')
    exact ⟨by simpa using longer.symm, by simpa using split⟩
  · obtain rfl := no_excess ne (fun d member => plain' d (List.mem_cons_of_mem _ member))
      (longer ▸ (plain e (by simp)).value) split (amps rest)
    exact ⟨by simpa using longer, by simpa using split.symm⟩

/-- The text determines its entries. -/
theorem encode_injective (ne : amp ≠ eq) {entries entries' : List (Entry α)}
    (plain : ∀ e ∈ entries, Plain amp eq e) (plain' : ∀ e ∈ entries', Plain amp eq e)
    (same : encode amp eq entries = encode amp eq entries') : entries = entries' := by
  induction entries generalizing entries' with
  | nil =>
    cases entries' with
    | nil => rfl
    | cons e' rest' => exact absurd same.symm (encode_cons_ne_nil e' rest')
  | cons e rest ih =>
    cases entries' with
    | nil => exact absurd same (encode_cons_ne_nil e rest)
    | cons e' rest' =>
      rw [encode_cons, encode_cons] at same
      obtain ⟨keys, values⟩ := key_unique (plain e (by simp)).key_eq (plain' e' (by simp)).key_eq same
      obtain ⟨value, tails⟩ := value_unique ne plain plain' values
      rw [Prod.ext keys value, ih (fun d member => plain d (List.mem_cons_of_mem _ member))
        (fun d member => plain' d (List.mem_cons_of_mem _ member)) (encodeRest_injective tails)]

end Bitmonie.KeyValueText
