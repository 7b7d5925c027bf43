import BlankLines.Proofs.TokenFile.Lines
import Mathlib.Algebra.Order.BigOperators.Group.Finset

/-!
What corrections must leave alone: the code of a file, which is its solid tokens and the scopes among
them, and the line breaks that keep code lines apart.
-/
namespace BlankLines.TokenFile

def code (file : TokenFile) : List (TokenKind × String) :=
  file.solids.map fun (token, _) => (token.kind, token.content)

/-- The scope of the `j`-th solid token is at the `k`-th solid token. -/
def Joins (scope : Token → Option Nat) (file : TokenFile) (j k : Nat) : Prop :=
  ∃ token here target there, file.solids[j]? = some (token, here) ∧
    file.solids[k]? = some (target, there) ∧ scope token = some there

/-- The second file has the code of the first, and every scope that joins two solid tokens there joins
the same two here. -/
structure SameCode (before after : TokenFile) : Prop where
  code : after.code = before.code
  opener : ∀ j k, Joins Token.scopeOpener before j k → Joins Token.scopeOpener after j k
  closer : ∀ j k, Joins Token.scopeCloser before j k → Joins Token.scopeCloser after j k

/-- The `k`-th solid token and the next one are on different lines. -/
def Apart (file : TokenFile) (k : Nat) : Prop :=
  ∃ first here second there, file.solids[k]? = some (first, here) ∧
    file.solids[k + 1]? = some (second, there) ∧ first.line ≠ second.line

/-- A line break behind another line ending, with no solid token in between. -/
def Spare (file : TokenFile) (position : Nat) : Prop :=
  file.breaksAt position = true ∧ ∃ earlier, earlier < position ∧
    0 < file.breaksOf earlier ∧ file.BlankFrom (earlier + 1) position

variable {file : TokenFile} {corrections : List Correction} {k : Nat}

theorem SameCode.refl (file : TokenFile) : SameCode file file :=
  ⟨rfl, fun _ _ => id, fun _ _ => id⟩

theorem SameCode.trans {before middle after : TokenFile} (first : SameCode before middle)
    (second : SameCode middle after) : SameCode before after where
  code := second.code.trans first.code
  opener j k joins := second.opener j k (first.opener j k joins)
  closer j k joins := second.closer j k (first.closer j k joins)

/-- A scope that moves along with the tokens joins the same two afterwards. -/
theorem Joins.revise {scope : Token → Option Nat} {j : Nat} (corrections : List Correction)
    (moves : ∀ token line content, scope {
      kind := token.kind, line, content
      scopeOpener := token.scopeOpener.map (file.moved corrections)
      scopeCloser := token.scopeCloser.map (file.moved corrections) } =
        (scope token).map (file.moved corrections))
    (joins : Joins scope file j k) : Joins scope (file.revise corrections) j k := by
  obtain ⟨token, here, target, there, foundHere, foundThere, points⟩ := joins
  refine ⟨_, _, _, _, solids_revise _ foundHere, solids_revise _ foundThere, ?_⟩
  rw [moves, points, Option.map_some]

/-- Corrections that blank only line breaks leave the code as it is. -/
theorem revise_sameCode (spared : ∀ position, .delete position ∈ corrections →
    file.breaksAt position = true) : SameCode file (file.revise corrections) := by
  have kept {j here : Nat} {token : Token} (found : file.solids[j]? = some (token, here)) :
      .delete here ∉ corrections := by
    intro member
    obtain ⟨other, foundHere, white, _⟩ := breaksAt_iff.mp (spared here member)
    obtain ⟨foundToken, solid, _⟩ := getElem?_solids.mp found
    obtain rfl := Option.some.inj (foundHere.symm.trans foundToken)
    simp [solid] at white
  refine ⟨?_, fun j k => Joins.revise corrections fun _ _ _ => rfl,
    fun j k => Joins.revise corrections fun _ _ _ => rfl⟩
  apply List.ext_getElem?
  intro j
  rw [code, code, List.getElem?_map, List.getElem?_map]
  cases found : file.solids[j]? with
  | none =>
    have beyond := List.getElem?_eq_none_iff.mp found
    rw [List.getElem?_eq_none (by rw [length_solids_revise]; exact beyond)]
  | some pair =>
    obtain ⟨token, here⟩ := pair
    have solid := (getElem?_solids.mp found).2.1
    rw [solids_revise _ found, slotAt_solid solid (kept found), Option.map_some, Option.map_some]

theorem exists_first_break {size : Nat → Nat} {low high : Nat}
    (positive : 0 < ∑ position ∈ Finset.Ico low high, size position) :
    ∃ position ∈ Finset.Ico low high, 0 < size position ∧
      ∀ earlier, low ≤ earlier → earlier < position → size earlier = 0 := by
  classical
  have some : ∃ position, low ≤ position ∧ position < high ∧ 0 < size position := by
    obtain ⟨position, member, nonzero⟩ := Finset.exists_ne_zero_of_sum_ne_zero positive.ne'
    obtain ⟨above, below⟩ := Finset.mem_Ico.mp member
    exact ⟨position, above, below, Nat.pos_of_ne_zero nonzero⟩
  obtain ⟨above, below, breaks⟩ := Nat.find_spec some
  refine ⟨Nat.find some, Finset.mem_Ico.mpr ⟨above, below⟩, breaks, ?_⟩
  intro earlier low_le before
  have miss := Nat.find_min some before
  by_contra nonzero
  exact miss ⟨low_le, before.trans below, Nat.pos_of_ne_zero nonzero⟩

/-- Corrections that blank only spare line breaks leave a line ending between two tokens that have one,
the first of them solid: that of the first line to end there stays. -/
theorem LaidOut.sum_breaksAfter_pos (laidOut : file.LaidOut)
    (spared : ∀ position, .delete position ∈ corrections → file.Spare position)
    {low high : Nat} {first : Token} (begins : file.tokens[low]? = some first)
    (solid : first.isWhitespace = false)
    (positive : 0 < ∑ position ∈ Finset.Ico low high, file.breaksOf position) :
    0 < ∑ position ∈ Finset.Ico low high, file.breaksAfter corrections position := by
  obtain ⟨position, within, breaks, earliest⟩ := exists_first_break positive
  obtain ⟨above, below⟩ := Finset.mem_Ico.mp within
  have kept : .delete position ∉ corrections := by
    intro member
    obtain ⟨white, earlier, before, ends, blank⟩ := spared position member
    have behind : low ≤ earlier := by
      by_contra ahead
      rcases Nat.eq_or_lt_of_le above with rfl | inside
      · obtain ⟨token, found, isWhite, _⟩ := breaksAt_iff.mp white
        simp_all
      · have isWhite := blank low (by omega) inside first begins
        simp [solid] at isWhite
    have := earliest earlier behind before
    omega
  exact Finset.sum_pos' (fun _ _ => Nat.zero_le _)
    ⟨position, within, breaks.trans_le (laidOut.breaksOf_le_breaksAfter kept)⟩

/-- Neighbouring solid tokens are on different lines if there is a line ending between them. -/
theorem LaidOut.apart_iff (laidOut : file.LaidOut) {here there : Nat} {first second : Token}
    (foundFirst : file.solids[k]? = some (first, here))
    (foundSecond : file.solids[k + 1]? = some (second, there)) :
    file.Apart k ↔ 0 < ∑ position ∈ Finset.Ico here there, file.breaksOf position := by
  obtain ⟨order, _⟩ := between_solids foundFirst foundSecond
  have total := laidOut.measured.counted.line_add (Nat.le_of_lt order)
    (getElem?_solids.mp foundFirst).1 (getElem?_solids.mp foundSecond).1
  constructor
  · rintro ⟨first', here', second', there', foundFirst', foundSecond', lines⟩
    rw [foundFirst, Option.some.injEq, Prod.mk.injEq] at foundFirst'
    rw [foundSecond, Option.some.injEq, Prod.mk.injEq] at foundSecond'
    obtain ⟨rfl, rfl⟩ := foundFirst'
    obtain ⟨rfl, rfl⟩ := foundSecond'
    omega
  · intro some
    exact ⟨first, here, second, there, foundFirst, foundSecond, by omega⟩

/-- Corrections that blank only spare line breaks never join lines. -/
theorem LaidOut.apart_revise (laidOut : file.LaidOut)
    (spared : ∀ position, .delete position ∈ corrections → file.Spare position)
    (apart : file.Apart k) : (file.revise corrections).Apart k := by
  obtain ⟨first, here, second, there, foundFirst, foundSecond, lines⟩ := apart
  obtain ⟨begins, solidFirst, _⟩ := getElem?_solids.mp foundFirst
  obtain ⟨ends, solidSecond, _⟩ := getElem?_solids.mp foundSecond
  obtain ⟨order, _⟩ := between_solids foundFirst foundSecond
  have total := laidOut.measured.counted.line_add (Nat.le_of_lt order) begins ends
  have stays := @LaidOut.sum_breaksAfter_pos _ _ laidOut spared here there first begins solidFirst (by omega)
  have lines' := movedLine_add corrections laidOut.eol_ne (Nat.le_of_lt order)
    begins ends solidFirst solidSecond
  refine ⟨_, _, _, _, solids_revise _ foundFirst, solids_revise _ foundSecond, ?_⟩
  simp only
  omega

end BlankLines.TokenFile
