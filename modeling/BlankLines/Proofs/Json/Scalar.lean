import BlankLines.Json.Printer
import BlankLines.Json.Reader
import BlankLines.Proofs.Text.Number

/-!
Strings and integers read back. What is written for a string is read as that string whatever comes
behind it, and the digits of an integer are read as that integer where nothing behind them continues a
number.
-/
namespace BlankLines.Json

open Text (hexDigit hexValue?)

theorem hexValue?_hexDigit {n : Nat} (digit : n < 16) : hexValue? (hexDigit n) = some n := by
  revert n
  decide

/-- The code unit of a control character is read from its two last digits. -/
theorem hexUnit_of_lt {n : Nat} (control : n < 0x20) (rest : List Char) :
    hexUnit ('0' :: '0' :: hexDigit (n / 16) :: hexDigit (n % 16) :: rest) = .ok (n, rest) := by
  have zero : hexValue? '0' = some 0 := by decide
  have high := hexValue?_hexDigit (show n / 16 < 16 by omega)
  have low := hexValue?_hexDigit (show n % 16 < 16 by omega)
  have value : ((0 * 16 + 0) * 16 + n / 16) * 16 + n % 16 = n := by omega
  simp only [hexUnit, zero, high, low, value]

theorem escape_control {c : Char} (control : c.toNat < 0x20) (rest : List Char) :
    escape ('u' :: '0' :: '0' :: hexDigit (c.toNat / 16) :: hexDigit (c.toNat % 16) :: rest) =
      .ok (c, rest) := by
  have trail : isTrailUnit c.toNat = false := by
    simp only [isTrailUnit, Bool.and_eq_false_iff, decide_eq_false_iff_not]
    omega
  have lead : isLeadUnit c.toNat = false := by
    simp only [isLeadUnit, Bool.and_eq_false_iff, decide_eq_false_iff_not]
    omega
  simp only [escape, unicodeEscape, hexUnit_of_lt control, bind, Except.bind, trail, lead,
    Bool.false_eq_true, if_false, Char.ofNat_toNat]
  rfl

variable {done rest : List Char} {c : Char}

theorem textTail_quote : textTail done ('"' :: rest) = .ok (done.reverse, rest) := by
  rw [textTail]
  rfl

theorem textTail_escape {text : List Char} (read : escape text = .ok (c, rest)) :
    textTail done ('\\' :: text) = textTail (c :: done) rest := by
  rw [textTail]
  simp only [Char.reduceEq, if_false, if_true]
  split
  · next found =>
    obtain ⟨rfl, rfl⟩ := by simpa using read.symm.trans found
    rfl
  · next fault => simp [read] at fault

theorem textTail_plain (quote : c ≠ '"') (backslash : c ≠ '\\') (visible : ¬ c.toNat < 0x20) :
    textTail done (c :: rest) = textTail (c :: done) rest := by
  rw [textTail]
  simp only [quote, backslash, visible, if_false]

/-- A character is read from its written form, whether it is escaped there or not. -/
theorem textTail_escaped (done : List Char) (c : Char) (rest : List Char) :
    textTail done (escaped c ++ rest) = textTail (c :: done) rest := by
  unfold escaped
  split
  case h_8 quote backslash _ _ _ _ _ =>
    split
    · next control => exact textTail_escape (escape_control control rest)
    · next visible => exact textTail_plain quote backslash visible
  all_goals exact textTail_escape rfl

theorem textTail_flatMap_escaped (text done rest : List Char) :
    textTail done (text.flatMap escaped ++ '"' :: rest) = .ok (done.reverse ++ text, rest) := by
  induction text generalizing done with
  | nil => simp [textTail_quote]
  | cons c text ih =>
    rw [List.flatMap_cons, List.append_assoc, textTail_escaped, ih, List.reverse_cons,
      List.append_assoc, List.singleton_append]

theorem textTail_printText (s : String) (rest : List Char) :
    textTail [] (s.toList.flatMap escaped ++ '"' :: rest) = .ok (s.toList, rest) :=
  textTail_flatMap_escaped s.toList [] rest

theorem printText_append (s : String) (rest : List Char) :
    printText s ++ rest = '"' :: (s.toList.flatMap escaped ++ '"' :: rest) := by
  simp [printText]

theorem readText_printText (s : String) (rest : List Char) :
    readText (printText s ++ rest) = .ok (s, rest) := by
  rw [printText_append]
  simp [readText, skipSpace, isSpace, textTail_printText, bind, Except.bind, pure, Except.pure]

/-- Nothing at the front of the text continues a number. -/
def endsNumber : List Char → Bool
  | [] => true
  | c :: _ => !(c.isDigit || c = '.' || c = 'e' || c = 'E')

/-- A number above zero is written without a zero in front. -/
theorem head?_toDigits_append {n : Nat} (positive : 0 < n) (rest : List Char) :
    (Nat.toDigits 10 n ++ rest).head? ≠ some '0' := by
  induction n using Nat.strongRecOn generalizing rest with
  | _ n ih =>
    rcases Nat.lt_or_ge n 10 with single | more
    · rw [Nat.toDigits_of_lt_base single, List.singleton_append, List.head?_cons, ne_eq,
        Option.some.injEq, Nat.digitChar_eq_zero]
      exact Nat.ne_of_gt positive
    · rw [Nat.toDigits_of_base_le (by decide) more, List.append_assoc]
      exact ih (n / 10) (by omega) (by omega) _

theorem digitRun_append {digits : List Char} (some : digits ≠ [])
    (all : ∀ c ∈ digits, c.isDigit = true) (ends : endsNumber rest = true) (short : Fault) :
    digitRun short (digits ++ rest) = .ok (digits, rest) := by
  cases digits with
  | nil => exact absurd rfl some
  | cons c more =>
    have stops : rest.takeWhile Char.isDigit = [] ∧ rest.dropWhile Char.isDigit = rest := by
      cases rest with
      | nil => exact ⟨rfl, rfl⟩
      | cons d rest =>
        have other : d.isDigit = false := by simp_all [endsNumber]
        simp [other]
    have first := all c List.mem_cons_self
    have later := fun d member => all d (List.mem_cons_of_mem c member)
    rw [List.cons_append, digitRun, if_pos first, List.takeWhile_append_of_pos later,
      List.dropWhile_append_of_pos later, stops.1, stops.2, List.append_nil]

theorem wholeDigits_toDigits (n : Nat) (ends : endsNumber rest = true) (short : Fault) :
    wholeDigits short (Nat.toDigits 10 n ++ rest) = .ok (Nat.toDigits 10 n, rest) := by
  have run := digitRun_append Nat.toDigits_ne_nil (@Text.isDigit_of_mem_printed n) ends short
  unfold wholeDigits
  split
  · next c text whole =>
    -- Only zero is written with a zero in front, and it is written with that digit alone.
    rcases Nat.eq_zero_or_pos n with rfl | positive
    · obtain ⟨-, rfl⟩ := by simpa using whole
      have other : c.isDigit = false := by simp_all [endsNumber]
      rw [other]
      rfl
    · exact absurd (congrArg List.head? whole) (head?_toDigits_append positive rest)
  · exact run

theorem partDigits_of_ends (ends : endsNumber rest = true) (short : Fault) :
    partDigits short rest = .ok ([], rest) := by
  unfold partDigits
  split
  · simp [endsNumber] at ends
  · rfl

theorem exponentPart_of_ends (ends : endsNumber rest = true) (short : Fault) :
    exponentPart short rest = .ok (none, rest) := by
  cases rest with
  | nil => rfl
  | cons c rest =>
    have neither : (c = 'e' || c = 'E') = false := by simp_all [endsNumber]
    rw [exponentPart, neither]
    rfl

theorem foldl_digitValue (n : Nat) :
    (Nat.toDigits 10 n).foldl (fun n c => n * 10 + digitValue c) 0 = n := by
  simp only [digitValue, Nat.mul_comm _ 10]
  exact Nat.ofDigitChars_ten_toDigits

theorem numberTail_toDigits {n : Nat} (word : n < Word.size) (ends : endsNumber rest = true) :
    numberTail false (Nat.toDigits 10 n ++ rest) = .ok (.int n, rest) := by
  have read : literal .truncated false (Nat.toDigits 10 n ++ rest) =
      .ok (⟨false, Nat.toDigits 10 n, [], none⟩, rest) := by
    simp only [literal, wholeDigits_toDigits n ends, partDigits_of_ends ends,
      exponentPart_of_ends ends, bind, Except.bind, pure, Except.pure]
  have fits : n ≤ maxSignificand := Nat.le_sub_one_of_lt word
  have integer : (⟨false, Nat.toDigits 10 n, [], none⟩ : Literal).integer? = some (n : Int) := by
    simp [Literal.integer?, foldl_digitValue, fits]
  simp only [numberTail, read, Literal.number?, integer, bind, Except.bind, pure, Except.pure]

theorem printNumber_ofNat (n : Nat) : printNumber (.int n) = Nat.toDigits 10 n :=
  Nat.toList_repr

theorem exists_printNumber_ofNat (n : Nat) :
    ∃ c more, printNumber (.int n) = c :: more ∧ c.isDigit = true := by
  rw [printNumber_ofNat]
  cases digits : Nat.toDigits 10 n with
  | nil => exact absurd digits Nat.toDigits_ne_nil
  | cons c more => exact ⟨c, more, rfl, Text.isDigit_of_mem_printed c (digits ▸ List.mem_cons_self)⟩

theorem isSpace_of_isDigit (digit : c.isDigit = true) : isSpace c = false := by
  rw [Bool.eq_false_iff]
  intro space
  simp only [isSpace, Bool.or_eq_true, decide_eq_true_eq] at space
  rcases space with ((rfl | rfl) | rfl) | rfl <;> simp at digit

/-- What is written for an integer of 64 bits is read as that integer. -/
theorem readNat_printNumber {n : Nat} (word : n < Word.size) (ends : endsNumber rest = true) :
    readNat (printNumber (.int n) ++ rest) = .ok (n, rest) := by
  have read := numberTail_toDigits word ends
  obtain ⟨c, more, digits, first⟩ := exists_printNumber_ofNat n
  have sign : c ≠ '-' := by
    rintro rfl
    simp at first
  rw [← printNumber_ofNat, digits, List.cons_append] at read
  rw [digits, List.cons_append]
  simp [readNat, skipSpace, isSpace_of_isDigit first, first, read]

/-- A number is not taken for the word that stands for nothing. -/
theorem readOptional_printNumber {n : Nat} (word : n < Word.size) (ends : endsNumber rest = true) :
    readOptional readNat (printNumber (.int n) ++ rest) = .ok (some n, rest) := by
  have read := readNat_printNumber word ends
  obtain ⟨c, more, digits, first⟩ := exists_printNumber_ofNat n
  have other : c ≠ 'n' := by
    rintro rfl
    simp at first
  have start : skipSpace (c :: (more ++ rest)) = c :: (more ++ rest) := by
    simp [skipSpace, isSpace_of_isDigit first]
  rw [digits, List.cons_append] at read ⊢
  rw [readOptional, start]
  split
  · next whole => exact absurd (List.cons.inj whole).1 other
  · rw [read]
    rfl

end BlankLines.Json
