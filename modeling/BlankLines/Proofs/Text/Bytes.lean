import Mathlib.Data.String.Basic

/-!
Texts are in the order of their bytes: comparing character by character is comparing the bytes of
UTF-8 one by one.
-/
namespace BlankLines.Text

/-- The bytes of a text in UTF-8. -/
def bytes (text : String) : List UInt8 :=
  text.toUTF8.data.toList

theorem bytes_eq (text : String) : bytes text = text.toList.flatMap String.utf8EncodeChar := by
  rw [bytes, String.toUTF8, ← String.utf8Encode_toList, List.utf8Encode]
  simp

theorem ofNat_cons_lt {a b : Nat} {as bs : List UInt8} (byte : b < 256) (notAfter : a ≤ b)
    (later : a = b → as < bs) : UInt8.ofNat a :: as < UInt8.ofNat b :: bs := by
  rw [List.cons_lt_cons_iff]
  rcases Nat.lt_or_eq_of_le notAfter with less | rfl
  · refine .inl (UInt8.lt_iff_toNat_lt.mpr ?_)
    rw [UInt8.toNat_ofNat', UInt8.toNat_ofNat', Nat.mod_eq_of_lt byte,
      Nat.mod_eq_of_lt (Nat.lt_trans less byte)]
    exact less
  · exact .inr ⟨rfl, later rfl⟩

/-- Of two characters the later one has the greater bytes, whatever follows. -/
theorem utf8EncodeChar_append_lt {c d : Char} (less : c < d) (xs ys : List UInt8) :
    String.utf8EncodeChar c ++ xs < String.utf8EncodeChar d ++ ys := by
  have smaller : c.val.toNat < d.val.toNat := less
  have bound : d.val.toNat < 0x110000 := by
    rcases d.valid with low | high
    · exact Nat.lt_trans low (by decide)
    · exact high.2
  simp only [String.utf8EncodeChar]
  generalize c.val.toNat = v at smaller
  generalize d.val.toNat = w at smaller bound
  -- The first byte tells how many there are; the others are digits to the base 64. Two characters with
  -- the same digits would be the same.
  split_ifs
  all_goals
    simp only [List.cons_append, List.nil_append]
    repeat refine ofNat_cons_lt (by omega) (by omega) fun same => ?_
    omega

theorem flatMap_utf8EncodeChar_lt {text text' : List Char} (less : text < text') :
    text.flatMap String.utf8EncodeChar < text'.flatMap String.utf8EncodeChar := by
  induction less with
  | @nil c rest =>
    have some : String.utf8EncodeChar c ≠ [] := by
      intro none
      exact absurd (String.length_utf8EncodeChar c ▸ congrArg List.length none) (Nat.ne_of_gt c.utf8Size_pos)
    obtain ⟨byte, bytes, same⟩ := List.exists_cons_of_ne_nil some
    rw [List.flatMap_nil, List.flatMap_cons, same]
    exact .nil
  | cons _ ih =>
    rw [List.flatMap_cons, List.flatMap_cons]
    exact List.append_left_lt ih
  | rel less =>
    rw [List.flatMap_cons, List.flatMap_cons]
    exact utf8EncodeChar_append_lt less _ _

/-- A text that comes before another one comes before it by its bytes. -/
theorem bytes_lt {text text' : String} (less : text < text') : bytes text < bytes text' := by
  rw [bytes_eq, bytes_eq]
  exact flatMap_utf8EncodeChar_lt less

theorem bytes_lt_iff {text text' : String} : bytes text < bytes text' ↔ text < text' := by
  refine ⟨fun less => ?_, bytes_lt⟩
  rcases lt_trichotomy text text' with before | rfl | after
  · exact before
  · exact absurd less (List.lt_irrefl _)
  · exact absurd less (List.lt_asymm (bytes_lt after))

end BlankLines.Text
