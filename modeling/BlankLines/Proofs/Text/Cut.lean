import BlankLines.Text.LineEnding
import Mathlib.Algebra.Ring.Nat

/-!
What cutting a text after its line endings yields. The cut is at the leftmost occurrence of the mark,
the pieces are the text, and no piece holds a line ending anywhere but at its very end.
-/
namespace BlankLines.Text

variable {mark text front after : List Char}

/-- Every occurrence of the mark, overlapping ones included, is at the very end of the text. So there
is at most one. -/
def OnlyAtEnd (mark text : List Char) : Prop :=
  ∀ before behind, text = before ++ mark ++ behind → behind = []

theorem onlyAtEnd_self (mark : List Char) : OnlyAtEnd mark mark := by
  intro before behind occurs
  have size := congrArg List.length occurs
  simp only [List.length_append] at size
  exact List.eq_nil_of_length_eq_zero (by omega)

theorem onlyAtEnd_nil (mark : List Char) : OnlyAtEnd mark [] :=
  fun _ _ occurs => (List.append_eq_nil_iff.mp occurs.symm).2

theorem splitAfter_isSome_iff : (splitAfter mark text).isSome ↔ mark <:+: text := by
  induction text with
  | nil => simp [splitAfter, apply_ite Option.isSome]
  | cons c rest ih =>
    rw [List.infix_cons_iff, ← ih, splitAfter, ← List.isPrefixOf_iff_prefix]
    split <;> simp_all

/-- No occurrence of the mark ends before the cut. -/
theorem splitAfter_leftmost {before behind : List Char}
    (found : splitAfter mark text = some (front, after))
    (occurs : text = before ++ mark ++ behind) : front.length ≤ before.length + mark.length := by
  induction text generalizing front before with
  | nil =>
    simp only [splitAfter] at found
    split at found <;> simp_all
  | cons c rest ih =>
    simp only [splitAfter] at found
    split at found
    · obtain ⟨rfl, _⟩ := by simpa using found
      omega
    · next apart =>
      obtain ⟨⟨front', after'⟩, inner, pair⟩ := Option.map_eq_some_iff.mp found
      obtain ⟨rfl, rfl⟩ := by simpa using pair
      cases before with
      | nil => exact absurd (List.isPrefixOf_iff_prefix.mpr ⟨behind, occurs.symm⟩) apart
      | cons d before =>
        have shorter := ih inner (List.cons.inj occurs).2
        simp only [List.length_cons]
        omega

theorem onlyAtEnd_of_splitAfter (found : splitAfter mark text = some (front, after)) :
    OnlyAtEnd mark front := by
  intro before behind occurs
  have within : text = before ++ mark ++ (behind ++ after) := by
    rw [← append_of_splitAfter found, occurs]
    simp only [List.append_assoc]
  have bound := splitAfter_leftmost found within
  have size := congrArg List.length occurs
  simp only [List.length_append] at size
  exact List.eq_nil_of_length_eq_zero (by omega)

theorem onlyAtEnd_iff :
    OnlyAtEnd mark text ↔ (splitAfter mark text).all (·.2.isEmpty) = true := by
  cases found : splitAfter mark text with
  | none =>
    have absent : ¬ mark <:+: text := by rw [← splitAfter_isSome_iff, found]; simp
    exact iff_of_true (fun before behind occurs => absurd ⟨before, behind, occurs.symm⟩ absent) rfl
  | some parts =>
    obtain ⟨front, after⟩ := parts
    have whole := append_of_splitAfter found
    simp only [Option.all_some, List.isEmpty_iff]
    constructor
    · intro closing
      obtain ⟨before, ends⟩ := suffix_of_splitAfter found
      exact closing before after (by rw [ends, whole])
    · rintro rfl
      rw [List.append_nil] at whole
      exact whole ▸ onlyAtEnd_of_splitAfter found

instance (mark text : List Char) : Decidable (OnlyAtEnd mark text) :=
  decidable_of_iff _ onlyAtEnd_iff.symm

theorem containsBreak_iff : containsBreak mark text = true ↔ mark <:+: text :=
  splitAfter_isSome_iff

theorem containsBreak_append (more : List Char) (found : containsBreak mark text = true) :
    containsBreak mark (text ++ more) = true :=
  containsBreak_iff.mpr ((containsBreak_iff.mp found).trans (List.prefix_append _ _).isInfix)

theorem containsBreak_self (mark : List Char) : containsBreak mark mark = true :=
  containsBreak_iff.mpr (List.infix_refl _)

theorem onlyAtEnd_of_containsBreak (absent : containsBreak mark text = false) :
    OnlyAtEnd mark text := by
  intro before behind occurs
  have found : containsBreak mark text = true := containsBreak_iff.mpr ⟨before, behind, occurs.symm⟩
  simp [absent] at found

theorem lines_eq_of_containsBreak (absent : containsBreak mark text = false) :
    lines mark text = ⟨[], text⟩ := by
  have none : splitAfter mark text = none := by simpa [containsBreak] using absent
  rw [lines]
  split <;> simp_all

theorem lines_eq_of_onlyAtEnd (nonempty : mark ≠ []) (closing : OnlyAtEnd mark text)
    (present : containsBreak mark text = true) : lines mark text = ⟨[text], []⟩ := by
  obtain ⟨⟨front, after⟩, found⟩ := Option.isSome_iff_exists.mp present
  have ended : after = [] := by simpa [found] using onlyAtEnd_iff.mp closing
  have whole := append_of_splitAfter found
  subst ended
  rw [List.append_nil] at whole
  subst whole
  have empty : lines mark [] = ⟨[], []⟩ :=
    lines_eq_of_containsBreak (by simp [containsBreak, splitAfter, nonempty])
  rw [lines]
  split
  · simp_all
  · next found' =>
    obtain ⟨rfl, rfl⟩ := by simpa using found.symm.trans found'
    simp [nonempty, empty]

theorem flatten_lines (mark text : List Char) :
    (lines mark text).closed.flatten ++ (lines mark text).rest = text := by
  fun_induction lines mark text with
  | case1 => rfl
  | case2 => rfl
  | case3 text front after found _ later ih =>
    rw [List.flatten_cons, List.append_assoc, ih]
    exact append_of_splitAfter found

theorem closed_spec (mark text : List Char) : ∀ piece ∈ (lines mark text).closed,
    OnlyAtEnd mark piece ∧ containsBreak mark piece = true := by
  fun_induction lines mark text with
  | case1 => simp
  | case2 => simp
  | case3 text front after found _ later ih =>
    intro piece member
    rcases List.mem_cons.mp member with rfl | member
    · exact ⟨onlyAtEnd_of_splitAfter found,
        containsBreak_iff.mpr (suffix_of_splitAfter found).isInfix⟩
    · exact ih piece member

theorem rest_spec (nonempty : mark ≠ []) (text : List Char) :
    containsBreak mark (lines mark text).rest = false := by
  fun_induction lines mark text with
  | case1 => simp_all [containsBreak]
  | case2 => simp_all
  | case3 text front after found _ later ih => exact ih

/-- No character is lost or moved, for an empty mark either. -/
theorem flatten_pieces (mark text : List Char) : (pieces mark text).flatten = text := by
  unfold pieces
  split
  · induction text <;> simp_all
  · have whole := flatten_lines mark text
    dsimp only
    split
    · simp_all
    · simpa using whole

theorem pieces_spec (nonempty : mark ≠ []) : ∀ piece ∈ pieces mark text, OnlyAtEnd mark piece := by
  intro piece member
  have rest := onlyAtEnd_of_containsBreak (rest_spec nonempty text)
  have closed := closed_spec mark text
  simp only [pieces, List.isEmpty_iff, nonempty, if_false] at member
  split at member
  · exact (closed piece member).1
  · rcases List.mem_append.mp member with member | member
    · exact (closed piece member).1
    · exact List.mem_singleton.mp member ▸ rest

theorem suffix_of_onlyAtEnd (closing : OnlyAtEnd mark text) (present : containsBreak mark text = true) :
    mark <:+ text := by
  obtain ⟨before, behind, occurs⟩ := containsBreak_iff.mp present
  obtain rfl := closing before behind occurs.symm
  exact ⟨before, by simpa using occurs⟩

theorem ne_nil_of_mem_pieces {piece : List Char} (member : piece ∈ pieces mark text) : piece ≠ [] := by
  rintro rfl
  unfold pieces at member
  split at member
  · simp at member
  · next nonempty =>
    have closed : [] ∉ (lines mark text).closed := by
      intro closed
      have present := containsBreak_iff.mp (closed_spec mark text [] closed).2
      simp_all
    cases rest : (lines mark text).rest <;> simp_all

theorem pieces_eq_nil_iff : pieces mark text = [] ↔ text = [] := by
  constructor
  · intro none
    rw [← flatten_pieces mark text, none, List.flatten_nil]
  · rintro rfl
    have empty := List.flatten_eq_nil_iff.mp (flatten_pieces mark [])
    exact List.eq_nil_iff_forall_not_mem.mpr fun piece cut => ne_nil_of_mem_pieces cut (empty piece cut)

theorem length_pieces_le (mark text : List Char) :
    (pieces mark text).length ≤ breakCount mark text + 1 := by
  rw [pieces, breakCount]
  cases empty : mark.isEmpty with
  | true =>
    rw [if_pos rfl, if_pos rfl, List.length_map]
    omega
  | false =>
    rw [if_neg Bool.false_ne_true, if_neg Bool.false_ne_true]
    dsimp only
    split
    · exact Nat.le_succ _
    · rw [List.length_append, List.length_singleton]

/-- A piece that another one follows ends in the mark. -/
theorem suffix_of_mem_dropLast_pieces (nonempty : mark ≠ []) {piece : List Char}
    (member : piece ∈ (pieces mark text).dropLast) : mark <:+ piece := by
  have closed : piece ∈ (lines mark text).closed := by
    simp only [pieces, List.isEmpty_iff, nonempty, if_false] at member
    split at member
    · exact List.dropLast_subset _ member
    · simpa using member
  obtain ⟨closing, present⟩ := closed_spec mark text piece closed
  exact suffix_of_onlyAtEnd closing present

/-- A text that is not empty and has no line ending but at its end is one piece. -/
theorem pieces_eq_singleton (nonempty : mark ≠ []) (some : text ≠ []) (closing : OnlyAtEnd mark text) :
    pieces mark text = [text] := by
  simp only [pieces, List.isEmpty_iff, nonempty, if_false]
  cases present : containsBreak mark text with
  | true => simp [lines_eq_of_onlyAtEnd nonempty closing present]
  | false => simp [lines_eq_of_containsBreak present, some]

theorem breakCount_of_onlyAtEnd (nonempty : mark ≠ []) (closing : OnlyAtEnd mark text) :
    breakCount mark text = if containsBreak mark text then 1 else 0 := by
  simp only [breakCount, List.isEmpty_iff, nonempty, if_false]
  split
  · next present => rw [lines_eq_of_onlyAtEnd nonempty closing present, List.length_singleton]
  · next absent => rw [lines_eq_of_containsBreak (by simpa using absent), List.length_nil]

theorem breakCount_nil (nonempty : mark ≠ []) : breakCount mark [] = 0 := by
  rw [breakCount_of_onlyAtEnd nonempty (onlyAtEnd_nil mark), containsBreak]
  simp [splitAfter, nonempty]

theorem breakCount_pos_iff : 0 < breakCount mark text ↔ containsBreak mark text = true := by
  unfold breakCount
  split
  · next empty => simp [containsBreak_iff, List.isEmpty_iff.mp empty]
  · next nonempty =>
    have nonempty : mark ≠ [] := by simpa using nonempty
    cases present : containsBreak mark text with
    | false => simp [lines_eq_of_containsBreak present]
    | true =>
      obtain ⟨⟨front, after⟩, found⟩ := Option.isSome_iff_exists.mp present
      rw [lines]
      split <;> simp_all

theorem sum_breakCount_pieces (nonempty : mark ≠ []) (text : List Char) :
    ((pieces mark text).map (breakCount mark)).sum = breakCount mark text := by
  have closed : (lines mark text).closed.map (breakCount mark) =
      List.replicate (lines mark text).closed.length 1 := by
    rw [← List.map_const', List.map_congr_left]
    intro piece member
    obtain ⟨closing, present⟩ := closed_spec mark text piece member
    rw [breakCount_of_onlyAtEnd nonempty closing, present, if_pos rfl]
  have rest : breakCount mark (lines mark text).rest = 0 := by
    have absent := rest_spec nonempty text
    rw [breakCount_of_onlyAtEnd nonempty (onlyAtEnd_of_containsBreak absent), absent]
    rfl
  have count : breakCount mark text = (lines mark text).closed.length := by
    simp only [breakCount, List.isEmpty_iff, nonempty, if_false]
  rw [count]
  simp only [pieces, List.isEmpty_iff, nonempty, if_false]
  split
  · simp [closed]
  · simp [closed, rest]

theorem breakCount_of_splitAfter (nonempty : mark ≠ [])
    (found : splitAfter mark text = some (front, after)) :
    breakCount mark text = breakCount mark after + 1 := by
  simp only [breakCount, List.isEmpty_iff, nonempty, if_false]
  rw [lines]
  split
  · simp_all
  · next found' =>
    obtain ⟨rfl, rfl⟩ := by simpa using found.symm.trans found'
    simp [nonempty]

/-- A text that ends in its only line ending is cut there, whatever follows. -/
theorem splitAfter_append (closing : OnlyAtEnd mark text) (present : containsBreak mark text = true)
    (more : List Char) : splitAfter mark (text ++ more) = some (text, more) := by
  obtain ⟨⟨front, after⟩, found⟩ := Option.isSome_iff_exists.mp (containsBreak_append more present)
  have whole := append_of_splitAfter found
  obtain ⟨before, occurs⟩ := suffix_of_onlyAtEnd closing present
  have bound := splitAfter_leftmost found (show text ++ more = before ++ mark ++ more by rw [occurs])
  have size := congrArg List.length occurs
  rw [List.length_append] at size
  obtain ⟨rest, ends⟩ := List.prefix_of_prefix_length_le (List.prefix_append front after)
    (whole ▸ List.prefix_append text more) (by omega)
  obtain ⟨lead, starts⟩ := suffix_of_splitAfter found
  obtain rfl := closing lead rest (by rw [starts, ends])
  rw [List.append_nil] at ends
  subst ends
  rw [found, List.append_cancel_left whole]

/-- A line ending that is added may close earlier, together with the end of the text, but it closes
one piece more. -/
theorem breakCount_append_of_absent (nonempty : mark ≠ []) (absent : containsBreak mark text = false)
    (count : Nat) : breakCount mark (text ++ (List.replicate count mark).flatten) = count := by
  induction count generalizing text with
  | zero =>
    rw [List.replicate_zero, List.flatten_nil, List.append_nil,
      breakCount_of_onlyAtEnd nonempty (onlyAtEnd_of_containsBreak absent), absent]
    rfl
  | succ count ih =>
    rw [List.replicate_succ, List.flatten_cons]
    have present : containsBreak mark (text ++ (mark ++ (List.replicate count mark).flatten)) = true :=
      containsBreak_iff.mpr ⟨text, _, List.append_assoc ..⟩
    obtain ⟨⟨front, after⟩, found⟩ := Option.isSome_iff_exists.mp present
    have whole := append_of_splitAfter found
    have bound := splitAfter_leftmost found (List.append_assoc ..).symm
    obtain ⟨lead, starts⟩ := suffix_of_splitAfter found
    have absent' : ¬ mark <:+: text := by rw [← containsBreak_iff, absent]; exact Bool.false_ne_true
    -- The first cut is behind the text, so it takes a part of the first line ending added.
    rcases List.append_eq_append_iff.mp whole with ⟨rest, within, _⟩ | ⟨part, rfl, cut⟩
    · exact absurd ⟨lead, rest, by rw [starts, within]⟩ absent'
    · rw [List.length_append] at bound
      obtain ⟨tail, same⟩ := List.prefix_of_prefix_length_le ⟨after, cut.symm⟩
        (List.prefix_append mark (List.replicate count mark).flatten) (by omega)
      have shorter : containsBreak mark tail = false := by
        rw [Bool.eq_false_iff, ne_eq, containsBreak_iff]
        intro inside
        have size := congrArg List.length same
        have low := inside.length_le
        rw [List.length_append] at size
        obtain rfl : part = [] := List.eq_nil_of_length_eq_zero (by omega)
        exact absent' ⟨lead, [], by rw [starts, List.append_nil, List.append_nil]⟩
      have left : after = tail ++ (List.replicate count mark).flatten := by
        apply @List.append_cancel_left _ part
        rw [← cut, ← List.append_assoc, same]
      rw [breakCount_of_splitAfter nonempty found, left, ih shorter]

theorem breakCount_append_marks (nonempty : mark ≠ []) (closing : OnlyAtEnd mark text)
    (count : Nat) : breakCount mark (text ++ (List.replicate count mark).flatten) =
      breakCount mark text + count := by
  cases present : containsBreak mark text with
  | false =>
    rw [breakCount_append_of_absent nonempty present, breakCount_of_onlyAtEnd nonempty closing,
      present, if_neg Bool.false_ne_true, Nat.zero_add]
  | true =>
    have none : breakCount mark (List.replicate count mark).flatten = count :=
      @breakCount_append_of_absent mark [] nonempty
        (by simp [containsBreak, splitAfter, nonempty]) count
    rw [breakCount_of_splitAfter nonempty (splitAfter_append closing present _), none,
      breakCount_of_onlyAtEnd nonempty closing, present, if_pos rfl, Nat.add_comm]

end BlankLines.Text
