/-!
Line endings in a text: occurrences of a mark, found from the left without overlap. `splitAfter` cuts
a text at its first line ending and `lines` at all of them; `breakCount` and `pieces` read the result.
-/
namespace BlankLines.Text

/-- The text up to and including the first `mark`, and the text after it. -/
def splitAfter (mark : List Char) : List Char → Option (List Char × List Char)
  | [] => if mark.isEmpty then some ([], []) else none
  | c :: rest =>
    if mark.isPrefixOf (c :: rest) then some (mark, (c :: rest).drop mark.length)
    else (splitAfter mark rest).map fun (front, after) => (c :: front, after)

/-- Cutting moves no character: the two parts are the text. -/
theorem append_of_splitAfter {mark text front after : List Char}
    (found : splitAfter mark text = some (front, after)) : front ++ after = text := by
  induction text generalizing front with
  | nil =>
    simp only [splitAfter] at found
    split at found <;> simp_all
  | cons c rest ih =>
    simp only [splitAfter] at found
    split at found
    · next starts =>
      obtain ⟨tail, whole⟩ := List.isPrefixOf_iff_prefix.mp starts
      obtain ⟨rfl, rfl⟩ := by simpa using found
      rw [← whole, List.drop_left]
    · obtain ⟨⟨front', after'⟩, inner, pair⟩ := Option.map_eq_some_iff.mp found
      obtain ⟨rfl, rfl⟩ := by simpa using pair
      rw [List.cons_append, ih inner]

/-- The front part ends in the mark. -/
theorem suffix_of_splitAfter {mark text front after : List Char}
    (found : splitAfter mark text = some (front, after)) : mark <:+ front := by
  induction text generalizing front with
  | nil =>
    simp only [splitAfter] at found
    split at found <;> simp_all
  | cons c rest ih =>
    simp only [splitAfter] at found
    split at found
    · obtain ⟨rfl, _⟩ := by simpa using found
      exact List.suffix_refl _
    · obtain ⟨⟨front', after'⟩, inner, pair⟩ := Option.map_eq_some_iff.mp found
      obtain ⟨rfl, rfl⟩ := by simpa using pair
      exact (ih inner).trans (List.suffix_cons _ _)

/-- A text cut at its line endings: the pieces that a line ending closes, and the open rest. -/
structure Lines where
  closed : List (List Char)
  rest : List Char
deriving Repr, DecidableEq

/-- Cuts after every `mark`. An empty mark closes nothing. -/
def lines (mark text : List Char) : Lines :=
  match _found : splitAfter mark text with
  | none => ⟨[], text⟩
  | some (front, after) =>
    if _empty : mark.isEmpty then ⟨[], text⟩
    else
      let later := lines mark after
      ⟨front :: later.closed, later.rest⟩
termination_by text.length
decreasing_by
  have whole := congrArg List.length (append_of_splitAfter _found)
  have long := (suffix_of_splitAfter _found).length_le
  have positive : 0 < mark.length := by
    cases mark with
    | nil => simp at _empty
    | cons => simp
  simp only [List.length_append] at whole
  omega

/-- Whether the mark occurs at all. -/
def containsBreak (mark text : List Char) : Bool :=
  (splitAfter mark text).isSome

/-- How often the mark occurs. An empty mark occurs before each character and at the end. -/
def breakCount (mark text : List Char) : Nat :=
  if mark.isEmpty then text.length + 1 else (lines mark text).closed.length

/-- The text cut after every mark, without empty pieces. An empty mark cuts between all characters. -/
def pieces (mark text : List Char) : List (List Char) :=
  if mark.isEmpty then text.map ([·])
  else
    let cut := lines mark text
    if cut.rest.isEmpty then cut.closed else cut.closed ++ [cut.rest]

end BlankLines.Text
