/-!
Numbers in a text: one is written in decimal digits, behind a sign if it is negative, and ends where the
digits do.
-/
namespace BlankLines.Text

theorem isDigit_of_mem_printed {n : Nat} : ∀ c ∈ Nat.toDigits 10 n, c.isDigit = true :=
  fun _ member => Nat.isDigit_of_mem_toDigits (by decide) (by decide) member

/-- A number is cut off a text by its digits, if none follows. -/
theorem takeWhile_number (n : Nat) {rest : String}
    (ends : rest.toList.head?.any Char.isDigit = false) :
    (toString n ++ rest).toList.takeWhile Char.isDigit = Nat.toDigits 10 n := by
  have stop : rest.toList.takeWhile Char.isDigit = [] := by
    cases text : rest.toList with
    | nil => rfl
    | cons c later =>
      have other : ¬ c.isDigit = true := by simpa [text] using ends
      rw [List.takeWhile_cons_of_neg other]
  rw [String.toList_append, Nat.toString_eq_repr, Nat.toList_repr,
    List.takeWhile_append_of_pos isDigit_of_mem_printed, stop, List.append_nil]

/-- Texts that begin with a number are the same only if the numbers are and what follows them is. -/
theorem number_append_inj {n m : Nat} {rest rest' : String}
    (ends : rest.toList.head?.any Char.isDigit = false)
    (ends' : rest'.toList.head?.any Char.isDigit = false)
    (same : toString n ++ rest = toString m ++ rest') : n = m ∧ rest = rest' := by
  have digits : Nat.toDigits 10 n = Nat.toDigits 10 m := by
    rw [← takeWhile_number n ends, same, takeWhile_number m ends']
  obtain rfl : n = m := by
    rw [← @Nat.ofDigitChars_ten_toDigits n, digits, Nat.ofDigitChars_ten_toDigits]
  exact ⟨rfl, (String.append_right_inj _).mp same⟩

theorem number_inj {n m : Nat} (same : toString n = toString m) : n = m :=
  (@number_append_inj n m "" "" rfl rfl (congrArg (· ++ "") same)).1

/-- A number has no sign in front. -/
theorem number_ne_signed (n m : Nat) : toString n ≠ "-" ++ toString m := by
  intro same
  have sign : '-' ∈ Nat.toDigits 10 n := by
    rw [← Nat.toList_repr, ← Nat.toString_eq_repr, same, String.toList_append]
    exact List.mem_cons_self
  exact absurd (isDigit_of_mem_printed _ sign) (by decide)

theorem integer_inj {i j : Int} (same : toString i = toString j) : i = j := by
  cases i with
  | ofNat n =>
    cases j with
    | ofNat m => exact congrArg Int.ofNat (number_inj same)
    | negSucc m => exact absurd same (number_ne_signed n (m + 1))
  | negSucc n =>
    cases j with
    | ofNat m => exact absurd same.symm (number_ne_signed m (n + 1))
    | negSucc m =>
      have succ : n + 1 = m + 1 := number_inj ((String.append_right_inj "-").mp same)
      exact congrArg Int.negSucc (Nat.succ.inj succ)

end BlankLines.Text
