import BlankLines.Binary64

/-!
The fewest decimal digits that read back as the same number, and their text without an exponent.
-/
namespace BlankLines.Binary64

/-- Decimals `digits * 10^power`. -/
structure Decimal where
  digits : Nat
  power : Int
deriving Repr, DecidableEq

/-- The reals that round to a number, in quarters of its last place: `low` to `high` around `value`,
times `2^unit`. The ends belong to it where `closed` holds. -/
structure Interval where
  low : Nat
  value : Nat
  high : Nat
  unit : Int
  closed : Bool

/-- The interval of `mantissa * 2^exponent`. Below a power of two the grid is twice as fine. -/
def interval (mantissa : Nat) (exponent : Int) : Interval where
  low :=
    if mantissa = mantissaBound / 2 && minExponent < exponent then 4 * mantissa - 1
    else 4 * mantissa - 2
  value := 4 * mantissa
  high := 4 * mantissa + 2
  unit := exponent - 2
  closed := mantissa % 2 = 0

/-- Writes `n * 2^unit / 10^power` and a grid point over one denominator: the factor of `n`, and the
factor of the grid point. -/
def common (unit power : Int) : Nat × Nat :=
  (Nat.pow 2 unit.toNat * Nat.pow 10 (-power).toNat, Nat.pow 10 power.toNat * Nat.pow 2 (-unit).toNat)

/-- Whether `digits * 10^power` lies in the interval. -/
def Interval.holds (i : Interval) (d : Decimal) : Bool :=
  let (ours, theirs) := common i.unit d.power
  let point := d.digits * theirs
  if i.closed then i.low * ours ≤ point && point ≤ i.high * ours
  else i.low * ours < point && point < i.high * ours

/-- The nearer of the two neighbours of the value on the grid of `10^power`, if one is in the interval.
Of two that are as near the greater is taken. -/
def Interval.pick? (i : Interval) (power : Int) : Option Decimal :=
  let (ours, theirs) := common i.unit power
  let below : Decimal := ⟨i.value * ours / theirs, power⟩
  let above : Decimal := ⟨below.digits + 1, power⟩
  let twice := 2 * (i.value * ours - below.digits * theirs)
  match i.holds below, i.holds above with
  | true, true => some (if theirs ≤ twice then above else below)
  | true, false => some below
  | false, true => some above
  | false, false => none

/-- The number of decimal places before the point of `mantissa * 2^exponent`; negative for leading
zeros after it. -/
def magnitude (mantissa : Nat) (exponent : Int) : Int :=
  let (above, below) := fraction mantissa exponent
  if below ≤ above then (Nat.toDigits 10 (above / below)).length
  else
    let zeros := (Nat.toDigits 10 ((below - 1) / above)).length
    1 - (zeros : Int)

/-- The first grid with a hit, from one digit up to seventeen. -/
def shortestFrom (i : Interval) (places : Int) : Nat → Nat → Decimal
  | 0, _ => ⟨0, 0⟩
  | fuel + 1, count =>
    match i.pick? (places - count) with
    | some d => d
    | none => shortestFrom i places fuel (count + 1)

/-- The fewest digits that read back as `mantissa * 2^exponent`, nearest to it. -/
def shortest (mantissa : Nat) (exponent : Int) : Decimal :=
  if mantissa = 0 then ⟨0, 0⟩
  else shortestFrom (interval mantissa exponent) (magnitude mantissa exponent) 18 1

/-- A decimal without exponent; integral ones end in `.0`. -/
def Decimal.plain (d : Decimal) : List Char :=
  let digits := Nat.toDigits 10 d.digits
  if 0 ≤ d.power then digits ++ List.replicate d.power.toNat '0' ++ ['.', '0']
  else
    let places := (-d.power).toNat
    let padded := List.replicate (places + 1 - digits.length) '0' ++ digits
    let whole := padded.take (padded.length - places)
    let part := ((padded.drop (padded.length - places)).reverse.dropWhile (· = '0')).reverse
    whole ++ ['.'] ++ (if part.isEmpty then ['0'] else part)

/-- The text of a number: shortest digits, no exponent, `.0` on integral values. -/
def text : Binary64 → String
  | .finite negative mantissa exponent =>
    let body := String.ofList (shortest mantissa exponent).plain
    if negative then "-" ++ body else body
  | .infinite negative => if negative then "-inf" else "inf"
  | .nan => "nan"

end BlankLines.Binary64
