/-!
Binary floating-point numbers of 64 bits as exact values: a mantissa below 2^53 times a power of two.
Rounding goes to the nearest such number, ties to the even mantissa, in exact integer arithmetic.
-/
namespace BlankLines

/-- A 64-bit binary number. The value of `finite negative m e` is `m * 2^e`, with a sign. -/
inductive Binary64 where
  | finite (negative : Bool) (mantissa : Nat) (exponent : Int)
  | infinite (negative : Bool)
  | nan
deriving Repr, DecidableEq

namespace Binary64

def minExponent : Int := -1074

def maxExponent : Int := 971

/-- Mantissas are below this: 2^53. -/
def mantissaBound : Nat := 0x20000000000000

/-- The fraction `num / (den * 2^exponent)`, as a numerator and a denominator. -/
def unscale (num den : Nat) (exponent : Int) : Nat × Nat :=
  if 0 ≤ exponent then (num, den * Nat.pow 2 exponent.toNat)
  else (num * Nat.pow 2 (-exponent).toNat, den)

/-- The exponent at which `num / den` has 53 binary digits, or the least one if it has fewer. -/
def exponentOf (num den : Nat) : Int :=
  let guess : Int := (num.log2 : Int) - den.log2 - 53
  let scaled := unscale num den guess
  max minExponent (if mantissaBound ≤ scaled.1 / scaled.2 then guess + 1 else guess)

/-- The natural number nearest to `num / den`, the even one on a tie. -/
def roundQuotient (num den : Nat) : Nat :=
  let quotient := num / den
  let twice := 2 * (num % den)
  if den < twice || (twice = den && quotient % 2 = 1) then quotient + 1 else quotient

/-- The number nearest to the fraction `num / den`; infinite where no finite one is near. -/
def ofFraction (negative : Bool) (num den : Nat) : Binary64 :=
  if num = 0 || den = 0 then .finite negative 0 minExponent
  else
    let exponent := exponentOf num den
    let scaled := unscale num den exponent
    let mantissa := roundQuotient scaled.1 scaled.2
    let (mantissa, exponent) :=
      if mantissa = mantissaBound then (mantissaBound / 2, exponent + 1) else (mantissa, exponent)
    if maxExponent < exponent then .infinite negative else .finite negative mantissa exponent

/-- The number nearest to `digits * 10^power`. Powers far outside the range are decided by size. -/
def ofDecimal (negative : Bool) (digits : Nat) (power : Int) : Binary64 :=
  let size : Int := (Nat.toDigits 10 digits).length + power
  if digits = 0 then .finite negative 0 minExponent
  else if 310 < size then .infinite negative
  else if size < -330 then .finite negative 0 minExponent
  else if 0 ≤ power then ofFraction negative (digits * Nat.pow 10 power.toNat) 1
  else ofFraction negative digits (Nat.pow 10 (-power).toNat)

def ofNat (n : Nat) : Binary64 :=
  ofFraction false n 1

def fraction (mantissa : Nat) (exponent : Int) : Nat × Nat :=
  if 0 ≤ exponent then (mantissa * Nat.pow 2 exponent.toNat, 1)
  else (mantissa, Nat.pow 2 (-exponent).toNat)

/-- The product of a number and a fraction, rounded once. -/
def timesFraction (x : Binary64) (num den : Nat) : Binary64 :=
  match x with
  | .finite negative mantissa exponent =>
    let (above, below) := fraction mantissa exponent
    ofFraction negative (above * num) (below * den)
  | other => other

/-- A power of ten rounded to a number, as a fraction. Ten to the 308 is the greatest finite one. -/
def powerOfTen (power : Nat) : Nat × Nat :=
  match ofNat (Nat.pow 10 power) with
  | .finite _ mantissa exponent => fraction mantissa exponent
  | _ => (0, 1)

def isZero : Binary64 → Bool
  | .finite _ 0 _ => true
  | _ => false

def isInfinite : Binary64 → Bool
  | .infinite _ => true
  | _ => false

def negate : Binary64 → Binary64
  | .finite negative mantissa exponent => .finite (!negative) mantissa exponent
  | .infinite negative => .infinite (!negative)
  | .nan => .nan

end Binary64

end BlankLines
