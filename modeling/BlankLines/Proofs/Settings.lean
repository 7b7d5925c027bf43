import BlankLines.Settings
import Mathlib.Data.List.TakeWhile
import Mathlib.Data.Nat.Digits.Defs

/-!
What is a count: an integer from 0 on, or a text that writes a number of 64 bits in decimal digits, with
white space around it and a plus in front if there is one. All else is refused under its key.
-/
namespace BlankLines

namespace Text

variable {before core after text : List Char}

/-- Blanks at the ends are all that trimming takes off. -/
theorem exists_trim (text : List Char) :
    ∃ before after, text = before ++ trim text ++ after ∧
      (∀ c ∈ before, isBlank c = true) ∧ ∀ c ∈ after, isBlank c = true := by
  refine ⟨text.takeWhile isBlank, ((text.dropWhile isBlank).reverse.takeWhile isBlank).reverse, ?_,
    fun c member => List.mem_takeWhile_imp member, fun c member => ?_⟩
  · rw [trim, List.append_assoc, ← List.reverse_append, List.takeWhile_append_dropWhile,
      List.reverse_reverse, List.takeWhile_append_dropWhile]
  · exact List.mem_takeWhile_imp (List.mem_reverse.mp member)

theorem dropWhile_blank_append (blank : ∀ c ∈ before, isBlank c = true)
    (solid : ∀ c ∈ core, isBlank c = false) (rest : ∀ c ∈ after, isBlank c = true) :
    (before ++ core ++ after).dropWhile isBlank = if core = [] then [] else core ++ after := by
  rw [List.append_assoc, List.dropWhile_append_of_pos blank]
  cases core with
  | nil => exact List.dropWhile_eq_nil_iff.mpr rest
  | cons c core =>
    have first := solid c List.mem_cons_self
    simp [first]

/-- A text without blanks is what trimming leaves of it between blanks. -/
theorem trim_append (blank : ∀ c ∈ before, isBlank c = true)
    (solid : ∀ c ∈ core, isBlank c = false) (rest : ∀ c ∈ after, isBlank c = true) :
    trim (before ++ core ++ after) = core := by
  rw [trim, dropWhile_blank_append blank solid rest]
  split
  · next empty => rw [empty]; rfl
  · have back := @dropWhile_blank_append after.reverse core.reverse [] (by simpa using rest)
      (by simpa using solid) (by simp)
    rw [List.append_nil, List.append_nil, ← List.reverse_append] at back
    rw [back]
    split
    · next empty => exact (List.reverse_eq_nil_iff.mp empty).symm
    · exact List.reverse_reverse core

/-- The number that decimal digits write, the most significant first. -/
def decimalValue (digits : List Char) : Nat :=
  Nat.ofDigits 10 (digits.reverse.map fun c => c.toNat - '0'.toNat)

theorem foldl_eq_decimalValue (digits : List Char) :
    digits.foldl (fun n c => n * 10 + (c.toNat - '0'.toNat)) 0 = decimalValue digits := by
  rw [decimalValue, Nat.ofDigits_eq_foldr, List.foldr_map, List.foldr_reverse]
  congr 1
  funext n c
  rw [Nat.cast_id, Nat.add_comm, Nat.mul_comm]

theorem isBlank_of_isDigit {c : Char} (digit : c.isDigit = true) : isBlank c = false := by
  simp only [Char.isDigit, ge_iff_le, Bool.and_eq_true, decide_eq_true_eq] at digit
  obtain ⟨low, high⟩ := digit
  have low : 48 ≤ c.toNat := low
  have high : c.toNat ≤ 57 := high
  simp only [isBlank, Bool.or_eq_false_iff, Bool.and_eq_false_iff, decide_eq_false_iff_not]
  omega

end Text

namespace Settings

open Text

variable {settings : Settings} {key : String} {text digits : List Char} {value : Toml.Value} {n : Nat}

/-- A text that is nothing but decimal digits, at least one, writes a number of 64 bits. -/
structure DigitsWrite (digits : List Char) (n : Nat) : Prop where
  nonempty : digits ≠ []
  decimal : ∀ c ∈ digits, c.isDigit = true
  value : decimalValue digits = n
  small : n < Word.size

/-- A text writes a count: digits, with a plus in front or none, between white space. -/
def TextWrites (text : List Char) (n : Nat) : Prop :=
  ∃ before sign digits after, text = before ++ (sign ++ digits) ++ after ∧
    (∀ c ∈ before, isBlank c = true) ∧ (∀ c ∈ after, isBlank c = true) ∧
    (sign = [] ∨ sign = ['+']) ∧ DigitsWrite digits n

/-- What a value counts. -/
inductive Counts : Toml.Value → Nat → Prop
  | integer (n : Nat) : Counts (.integer n) n
  | text {text : String} {n : Nat} (writes : TextWrites text.toList n) : Counts (.string text) n

theorem digitsCount?_eq_some_iff : digitsCount? digits = some n ↔ DigitsWrite digits n := by
  simp only [digitsCount?, foldl_eq_decimalValue, Option.ite_none_right_eq_some, Option.some.injEq,
    Bool.and_eq_true, Bool.not_eq_true', List.isEmpty_eq_false_iff, List.all_eq_true,
    decide_eq_true_eq]
  constructor
  · rintro ⟨⟨⟨nonempty, decimal⟩, small⟩, rfl⟩
    exact ⟨nonempty, decimal, rfl, small⟩
  · rintro ⟨nonempty, decimal, rfl, small⟩
    exact ⟨⟨⟨nonempty, decimal⟩, small⟩, rfl⟩

theorem textCount?_eq_some_iff : textCount? text = some n ↔
    ∃ sign digits, text = sign ++ digits ∧ (sign = [] ∨ sign = ['+']) ∧ DigitsWrite digits n := by
  constructor
  · intro counted
    unfold textCount? at counted
    split at counted
    · next digits => exact ⟨['+'], digits, rfl, .inr rfl, digitsCount?_eq_some_iff.mp counted⟩
    · exact ⟨[], text, rfl, .inl rfl, digitsCount?_eq_some_iff.mp counted⟩
  · rintro ⟨sign, digits, rfl, rfl | rfl, writes⟩
    · unfold textCount?
      split
      · next same =>
        -- A plus is no digit, so it cannot be the first of them.
        have plus := writes.decimal '+' (by rw [← List.nil_append digits, same]; simp)
        exact absurd plus (by decide)
      · exact digitsCount?_eq_some_iff.mpr writes
    · exact digitsCount?_eq_some_iff.mpr writes

theorem textCount?_trim_eq_some_iff : textCount? (trim text) = some n ↔ TextWrites text n := by
  rw [textCount?_eq_some_iff]
  constructor
  · rintro ⟨sign, digits, core, signed, writes⟩
    obtain ⟨before, after, whole, blank, rest⟩ := exists_trim text
    exact ⟨before, sign, digits, after, core ▸ whole, blank, rest, signed, writes⟩
  · rintro ⟨before, sign, digits, after, rfl, blank, rest, signed, writes⟩
    refine ⟨sign, digits, trim_append blank (fun c member => ?_) rest, signed, writes⟩
    rcases List.mem_append.mp member with front | digit
    · rcases signed with rfl | rfl
      · exact absurd front List.not_mem_nil
      · obtain rfl := List.mem_singleton.mp front
        decide
    · exact isBlank_of_isDigit (writes.decimal c digit)

/-- The outcome for a key with a value. -/
theorem count_of_get? (found : Keyed.get? settings key = some value) :
    (∃ n, settings.count key = .ok (some n) ∧ Counts value n) ∨
      (∃ shown, settings.count key = .error ⟨key, shown⟩) ∧ ∀ n, ¬ Counts value n := by
  rw [count, found]
  cases value with
  | integer i =>
    by_cases positive : 0 ≤ i
    · obtain ⟨n, rfl⟩ := Int.eq_ofNat_of_zero_le positive
      exact .inl ⟨n, if_pos positive, .integer n⟩
    · refine .inr ⟨⟨_, if_neg positive⟩, fun n counts => ?_⟩
      cases counts
      exact positive (Int.natCast_nonneg n)
  | string text =>
    cases counted : textCount? (trim text.toList) with
    | some n =>
      refine .inl ⟨n, ?_, .text (textCount?_trim_eq_some_iff.mp counted)⟩
      simp only [counted]
    | none =>
      refine .inr ⟨⟨quoted text, ?_⟩, fun n counts => ?_⟩
      · simp only [counted]
      · obtain _ | writes := counts
        exact Option.some_ne_none n ((textCount?_trim_eq_some_iff.mpr writes).symm.trans counted)
  | _ => exact .inr ⟨⟨_, rfl⟩, nofun⟩

theorem Counts.unique {m : Nat} (counts : Counts value m) (counts' : Counts value n) : m = n := by
  cases counts with
  | integer => cases counts'; rfl
  | text writes =>
    obtain _ | writes' := counts'
    exact Option.some.inj ((textCount?_trim_eq_some_iff.mpr writes).symm.trans
      (textCount?_trim_eq_some_iff.mpr writes'))

/-- A key that is missing has no count, a value that counts something has that count, and any other
value is refused under its key. -/
theorem count_eq_iff (settings : Settings) (key : String) :
    (settings.count key = .ok none ↔ Keyed.get? settings key = none) ∧
      (∀ n, settings.count key = .ok (some n) ↔
        ∃ value, Keyed.get? settings key = some value ∧ Counts value n) ∧
      ((∃ shown, settings.count key = .error ⟨key, shown⟩) ↔
        ∃ value, Keyed.get? settings key = some value ∧ ∀ n, ¬ Counts value n) := by
  cases found : Keyed.get? settings key with
  | none =>
    have absent : settings.count key = .ok none := by rw [count, found]
    simp [absent]
  | some value =>
    rcases count_of_get? found with ⟨m, counted, counts⟩ | ⟨⟨shown, refused⟩, uncounted⟩
    · simp only [counted, Except.ok.injEq, reduceCtorEq, Option.some.injEq, exists_eq_left', exists_false,
        false_iff, not_forall, not_not, true_and]
      exact ⟨fun n => ⟨fun same => same ▸ counts, fun counts' => counts.unique counts'⟩, m, counts⟩
    · simp only [refused, reduceCtorEq, Option.some.injEq, exists_eq_left', uncounted,
        not_false_eq_true, implies_true, true_and, iff_true]
      exact ⟨shown, rfl⟩

example : count [("lines", .string " +018446744073709551615\u2003")] "lines" =
    .ok (some 0xFFFFFFFFFFFFFFFF) := by decide +kernel

example : (count [("lines", .string "18446744073709551616")] "lines").toOption = none := by
  decide +kernel

end Settings

end BlankLines
