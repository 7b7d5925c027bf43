/-!
Words of 64 bits, and natural numbers read as signed words. Line numbers and counts are compared and
printed this way, so that those from 2^63 on stand for negative numbers.
-/
namespace BlankLines.Word

/-- How many words there are: 2^64. -/
def size : Nat := 0x10000000000000000

/-- The least number that is read as a negative one: 2^63. -/
def half : Nat := 0x8000000000000000

/-- The two's complement reading of `n` modulo the number of words. -/
def signed (n : Nat) : Int :=
  Int.bmod n size

/-- Numbers below half the words stand for themselves. -/
theorem signed_of_lt {n : Nat} (small : n < half) : signed n = n :=
  Int.bmod_eq_of_le (by simp only [size]; omega) (by simp only [half] at small; simp only [size]; omega)

end BlankLines.Word
