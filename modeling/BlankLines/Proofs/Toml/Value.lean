import BlankLines.Toml.Value

/-!
Equality of TOML values is decided, so that what a document says can be computed and compared.
-/
namespace BlankLines.Toml.Value

mutual

/-- Whether two values are the same, part by part. -/
def same : Value → Value → Bool
  | .string text, .string text' => text = text'
  | .integer n, .integer n' => n = n'
  | .float x, .float x' => x = x'
  | .boolean on, .boolean on' => on = on'
  | .dateTime text, .dateTime text' => text = text'
  | .array items, .array items' => sameItems items items'
  | .table entries, .table entries' => sameEntries entries entries'
  | _, _ => false

def sameItems : List Value → List Value → Bool
  | [], [] => true
  | item :: items, item' :: items' => same item item' && sameItems items items'
  | _, _ => false

def sameEntries : List (String × Value) → List (String × Value) → Bool
  | [], [] => true
  | (key, value) :: entries, (key', value') :: entries' =>
    key = key' && same value value' && sameEntries entries entries'
  | _, _ => false

end

mutual

theorem same_iff (value value' : Value) : same value value' = true ↔ value = value' := by
  cases value with
  | array items => cases value' <;> simp [same, sameItems_iff items]
  | table entries => cases value' <;> simp [same, sameEntries_iff entries]
  | string | integer | float | boolean | dateTime => cases value' <;> simp [same]

theorem sameItems_iff (items items' : List Value) : sameItems items items' = true ↔ items = items' := by
  cases items with
  | nil => cases items' <;> simp [sameItems]
  | cons item items => cases items' <;> simp [sameItems, same_iff item, sameItems_iff items]

theorem sameEntries_iff (entries entries' : List (String × Value)) :
    sameEntries entries entries' = true ↔ entries = entries' := by
  cases entries with
  | nil => cases entries' <;> simp [sameEntries]
  | cons entry entries =>
    obtain ⟨key, value⟩ := entry
    cases entries' <;> simp [sameEntries, same_iff value, sameEntries_iff entries, Prod.ext_iff]

end

instance : DecidableEq Value :=
  fun value value' => decidable_of_iff _ (same_iff value value')

end BlankLines.Toml.Value
