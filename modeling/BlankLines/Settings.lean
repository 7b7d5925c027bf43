import BlankLines.Text.Blank
import BlankLines.Text.Quoted
import BlankLines.Toml.Printer
import BlankLines.Word

/-!
The settings of a rule: a table of counts, each written as an integer or as a text of digits.
-/
namespace BlankLines

/-- The table of a rule. Keys are whole, points included. -/
abbrev Settings := Toml.Table

/-- A count that is none, with the value as it is shown. -/
structure SettingsError where
  key : String
  shown : String
deriving Repr, DecidableEq

def SettingsError.message (error : SettingsError) : String :=
  "Setting " ++ error.key ++ " must be a non-negative integer, got " ++ error.shown

namespace Settings

/-- The number that one or more decimal digits write, if it fits 64 bits. -/
def digitsCount? (text : List Char) : Option Nat :=
  let n := text.foldl (fun n c => n * 10 + (c.toNat - '0'.toNat)) 0
  if !text.isEmpty && text.all Char.isDigit && n < Word.size then some n else none

/-- The count that a text writes: digits behind an optional plus. -/
def textCount? : List Char → Option Nat
  | '+' :: digits => digitsCount? digits
  | digits => digitsCount? digits

/-- The count under a key, if the key is there. White space around a text is ignored. -/
def count (settings : Settings) (key : String) : Except SettingsError (Option Nat) :=
  match Keyed.get? settings key with
  | none => .ok none
  | some (.integer n) =>
    if 0 ≤ n then .ok (some n.toNat) else .error ⟨key, toString n⟩
  | some (.string text) =>
    match textCount? (Text.trim text.toList) with
    | some n => .ok (some n)
    | none => .error ⟨key, Text.quoted text⟩
  | some other => .error ⟨key, other.display⟩

end Settings

end BlankLines
