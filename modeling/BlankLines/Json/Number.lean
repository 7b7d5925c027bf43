import BlankLines.Json.Value
import BlankLines.Word

/-!
Number literals: their grammar, and the number each one names. Digits beyond 64 bits only scale, and
scaling multiplies or divides by a rounded power of ten, rounding once more.
-/
namespace BlankLines.Json

def maxSignificand : Nat := Word.size - 1

def digitValue (c : Char) : Nat :=
  c.toNat - '0'.toNat

/-- A significand with the power of ten that scales it. `full` is set once a digit did not fit. -/
structure Significand where
  value : Nat
  power : Int
  full : Bool
deriving Repr, DecidableEq

namespace Significand

def zero : Significand := ⟨0, 0, false⟩

def pushWhole (s : Significand) (digit : Nat) : Significand :=
  if s.full || maxSignificand < s.value * 10 + digit then { s with power := s.power + 1, full := true }
  else { s with value := s.value * 10 + digit }

/-- A digit after the point: one that does not fit ends the significand. -/
def pushPart (s : Significand) (digit : Nat) : Significand :=
  if s.full || maxSignificand < s.value * 10 + digit then { s with full := true }
  else { s with value := s.value * 10 + digit, power := s.power - 1 }

end Significand

/-- A number literal by its parts, digits as written. -/
structure Literal where
  negative : Bool
  whole : List Char
  part : List Char
  exponent : Option Int
deriving Repr, DecidableEq

/-- Divides by ten to the 308 until the power is in range; what stays below vanishes. -/
def scaleDown : Nat → Binary64 → Int → Binary64
  | 0, _, _ => Binary64.ofNat 0
  | steps + 1, x, power =>
    if -308 ≤ power then
      let (above, below) := Binary64.powerOfTen (-power).toNat
      x.timesFraction below above
    else
      let (above, below) := Binary64.powerOfTen 308
      scaleDown steps (x.timesFraction below above) (power + 308)

/-- The number `significand * 10^power`; none where it is too great. -/
def scale (significand : Nat) (power : Int) : Option Binary64 :=
  let x := Binary64.ofNat significand
  if power < 0 then some (scaleDown 4 x power)
  else if x.isZero then some x
  else if 308 < power then none
  else
    let (above, below) := Binary64.powerOfTen power.toNat
    let product := x.timesFraction above below
    if product.isInfinite then none else some product

namespace Literal

def significand (l : Literal) : Significand :=
  let whole := l.whole.foldl (fun s c => s.pushWhole (digitValue c)) Significand.zero
  l.part.foldl (fun s c => s.pushPart (digitValue c)) { whole with full := false }

/-- The integer a literal names, if it is written as one and fits; minus zero is no integer. -/
def integer? (l : Literal) : Option Int :=
  let digits := l.whole.foldl (fun n c => n * 10 + digitValue c) 0
  if !l.part.isEmpty || l.exponent.isSome then none
  else if l.negative then if 0 < digits && digits ≤ Word.half then some (-(digits : Int)) else none
  else if digits ≤ maxSignificand then some digits else none

/-- The number a literal names; none where no finite number is near. -/
def number? (l : Literal) : Option Number :=
  match l.integer? with
  | some n => some (.int n)
  | none =>
    let s := l.significand
    (scale s.value (s.power + l.exponent.getD 0)).map fun x =>
      .real (if l.negative then x.negate else x)

end Literal

end BlankLines.Json
