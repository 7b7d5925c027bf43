import BlankLines.Proofs.Rule.Report
import BlankLines.Proofs.TokenFile.Code

/-!
What repairs blank. It is always a line break, and in a file that is laid out always a spare one: each
check counts one line ending of its gap less than there are, or counts only those behind the first.
-/
namespace BlankLines

def Rule.CountsBelow (bound : Nat) : Rule → Prop
  | braceSpacing afterOpening beforeClosing => afterOpening < bound ∧ beforeClosing < bound
  | methodSpacing between => between < bound

/-- All counts of a linter's rules are below a bound. -/
def Linter.CountsBelow (linter : Linter) (bound : Nat) : Prop :=
  ∀ entry ∈ linter.rules, entry.1.CountsBelow bound

instance (bound : Nat) (rule : Rule) : Decidable (rule.CountsBelow bound) :=
  match rule with
  | .braceSpacing afterOpening beforeClosing =>
    inferInstanceAs (Decidable (afterOpening < bound ∧ beforeClosing < bound))
  | .methodSpacing between => inferInstanceAs (Decidable (between < bound))

instance (bound : Nat) (linter : Linter) : Decidable (linter.CountsBelow bound) :=
  inferInstanceAs (Decidable (∀ entry ∈ linter.rules, entry.1.CountsBelow bound))

namespace TokenFile

variable {file : TokenFile} {low high position : Nat} {first last : Token}

theorem exists_lt_of_mem_drop {items : List Nat} (sorted : items.Pairwise (· < ·)) {count : Nat}
    (positive : 0 < count) (member : position ∈ items.drop count) :
    ∃ earlier ∈ items, earlier < position := by
  cases items with
  | nil => simp at member
  | cons earlier rest =>
    obtain ⟨count, rfl⟩ := Nat.exists_eq_succ_of_ne_zero positive.ne'
    rw [List.drop_succ_cons] at member
    exact ⟨earlier, List.mem_cons_self,
      List.rel_of_pairwise_cons sorted (List.mem_of_mem_drop member)⟩

theorem blank_of_find {start found : Nat}
    (search : file.findNext [.whitespace] start none true = some found) :
    start ≤ found ∧ file.BlankFrom start found ∧
      ∃ token, file.tokens[found]? = some token ∧ token.isWhitespace = false := by
  obtain ⟨from_start, _, ⟨token, here, wanted⟩, before⟩ := findNext_eq_some_iff.mp search
  refine ⟨from_start, ?_, token, here, by simpa [isWanted_white] using wanted⟩
  intro position above below other there
  simpa [isWanted_white] using before position above below other there

/-- The repair of the gap from one token to the next solid one spares its first line ending. -/
theorem LaidOut.spare_of_gap (laidOut : file.LaidOut) (small : file.LinesBelow Word.half)
    {wanted anchor : Nat} (count : wanted < Word.half) (order : low < high)
    (blank : file.BlankFrom (low + 1) high) (begins : file.tokens[low]? = some first)
    (ends : file.tokens[high]? = some last)
    (deleted : .delete position ∈ gapRepair (last.lineDelta first - 1) (Word.signed wanted) anchor
      (file.lineBreaks (low + 1) high)) : file.Spare position := by
  obtain ⟨surplus, member⟩ := delete_mem_gapRepair.mp deleted
  obtain ⟨above, below, breaks⟩ := mem_lineBreaks.mp (List.mem_of_mem_drop member)
  have total := laidOut.measured.counted.line_add (Nat.le_of_lt order) begins ends
  have size := laidOut.measured.length_lineBreaks (show low + 1 ≤ high from order) blank
  rw [Finset.sum_eq_sum_Ico_succ_bot order, ← size] at total
  rw [small.lineDelta_eq begins ends, Word.signed_of_lt count] at surplus member
  rcases Nat.eq_zero_or_pos (file.breaksOf low) with none | some
  · have positive : 0 < (file.lineBreaks (low + 1) high).length -
        ((last.line : Int) - first.line - 1 - wanted).toNat := by omega
    obtain ⟨earlier, listed, before⟩ :=
      exists_lt_of_mem_drop (lineBreaks_sorted file (low + 1) high) positive member
    obtain ⟨inside, _, breaks'⟩ := mem_lineBreaks.mp listed
    obtain ⟨token, found, _, ends'⟩ := breaksAt_iff.mp breaks'
    exact ⟨breaks, earlier, before, breaksOf_pos_iff.mpr ⟨token, found, ends'⟩,
      fun position above below => blank position (by omega) (by omega)⟩
  · exact ⟨breaks, low, by omega, some, fun position above below => blank position above (by omega)⟩

/-- The repair of the gap behind the line that a token ends on spares the end of that line. -/
theorem LaidOut.spare_of_next (laidOut : file.LaidOut) (small : file.LinesBelow Word.half)
    {wanted anchor closer stop : Nat} (count : wanted < Word.half) (before : closer ≤ stop)
    (closes : 0 < file.breaksOf stop) (order : stop + 1 ≤ high)
    (blank : file.BlankFrom (stop + 1) high) (begins : file.tokens[stop + 1]? = some first)
    (ends : file.tokens[high]? = some last)
    (deleted : .delete position ∈ gapRepair (last.lineDelta first) (Word.signed wanted) anchor
      (file.lineBreaks (closer + 1) high)) : file.Spare position := by
  obtain ⟨surplus, member⟩ := delete_mem_gapRepair.mp deleted
  have total := laidOut.measured.counted.line_add order begins ends
  rw [← laidOut.measured.length_lineBreaks order blank] at total
  rw [small.lineDelta_eq begins ends, Word.signed_of_lt count] at surplus member
  have join := lineBreaks_append file (show closer + 1 ≤ stop + 1 by omega) order
  have size := congrArg List.length join
  rw [List.length_append] at size
  have few : (file.lineBreaks (closer + 1) (stop + 1)).length ≤
      (file.lineBreaks (closer + 1) high).length - ((last.line : Int) - first.line - wanted).toNat := by
    omega
  rw [← join, List.drop_append, List.drop_eq_nil_of_le (by rw [join]; exact few),
    List.nil_append] at member
  obtain ⟨above, below, breaks⟩ := mem_lineBreaks.mp (List.mem_of_mem_drop member)
  exact ⟨breaks, stop, above, closes, fun position above below => blank position above (by omega)⟩

end TokenFile

open TokenFile

variable {file : TokenFile} {rule : Rule} {level : Level} {violation : Violation}
  {changeset : Changeset} {position place : Nat}

theorem fix_eq_of_atToken? {rule code message : String} {repair : Changeset}
    (reported : Violation.atToken? file place rule code level message repair = some violation)
    (fixed : violation.fix = some changeset) : changeset = repair := by
  rw [Violation.fix_atToken? reported] at fixed
  split at fixed <;> simp_all

theorem breaksAt_of_gapRepair {found wanted : Int} {anchor start stop : Nat}
    (deleted : .delete position ∈ gapRepair found wanted anchor (file.lineBreaks start stop)) :
    file.breaksAt position = true :=
  (mem_lineBreaks.mp (List.mem_of_mem_drop (delete_mem_gapRepair.mp deleted).2)).2.2

/-- Whatever the file, a fix blanks only line breaks. -/
theorem Rule.breaksAt_of_fix (reported : violation ∈ rule.check file place level)
    (fixed : violation.fix = some changeset) (deleted : .delete position ∈ changeset) :
    file.breaksAt position = true := by
  cases rule with
  | braceSpacing after before =>
    obtain ⟨_, _, _, _, _, _, opening | closing⟩ := BraceSpacing.mem_check_iff.mp reported
    · obtain ⟨_, _, _, _, _, _, _, _, report⟩ := BraceSpacing.checkOpening_eq_some_iff.mp opening
      exact breaksAt_of_gapRepair (fix_eq_of_atToken? report fixed ▸ deleted)
    · obtain ⟨_, _, _, _, _, _, _, _, report⟩ := BraceSpacing.checkClosing_eq_some_iff.mp closing
      exact breaksAt_of_gapRepair (fix_eq_of_atToken? report fixed ▸ deleted)
  | methodSpacing between =>
    obtain ⟨_, _, _, _, _, _, _, _, _, _, _, _, _, report⟩ :=
      MethodSpacing.mem_check_iff.mp reported
    exact breaksAt_of_gapRepair (fix_eq_of_atToken? report fixed ▸ deleted)

/-- In a file that is laid out, a fix blanks only spare line breaks. -/
theorem Rule.spare_of_fix (laidOut : file.LaidOut) (small : file.LinesBelow Word.half)
    (counts : rule.CountsBelow Word.half) (reported : violation ∈ rule.check file place level)
    (fixed : violation.fix = some changeset) (deleted : .delete position ∈ changeset) :
    file.Spare position := by
  cases rule with
  | braceSpacing after before =>
    obtain ⟨_, _, _, _, _, _, opening | closing⟩ := BraceSpacing.mem_check_iff.mp reported
    · obtain ⟨brace, next, follower, begins, search, ends, _, _, report⟩ :=
        BraceSpacing.checkOpening_eq_some_iff.mp opening
      obtain ⟨order, blank, _⟩ := blank_of_find search
      exact laidOut.spare_of_gap small counts.1 order blank begins ends
        (fix_eq_of_atToken? report fixed ▸ deleted)
    · obtain ⟨brace, previous, leader, ends, nonzero, search, begins, _, report⟩ :=
        BraceSpacing.checkClosing_eq_some_iff.mp closing
      obtain ⟨_, order, _, later⟩ := findPrevious_eq_some_iff.mp search
      refine laidOut.spare_of_gap small counts.2 (by omega) ?_ begins ends
        (fix_eq_of_atToken? report fixed ▸ deleted)
      intro position above below other there
      simpa [isWanted_white] using later position (by omega) (by omega) other there
  | methodSpacing between =>
    obtain ⟨_, closer, start, next, first, last, _, starts, content, begins, ends, _, _, report⟩ :=
      MethodSpacing.mem_check_iff.mp reported
    rw [MethodSpacing.nextContent?, starts] at content
    obtain ⟨order, blank, _⟩ := blank_of_find content
    simp only [MethodSpacing.nextLineStart?, Option.bind_eq_bind, Option.bind_eq_some_iff,
      Option.ite_none_right_eq_some, Option.some.injEq] at starts
    obtain ⟨stop, lineEnd, _, rfl⟩ := starts
    obtain ⟨before, closes, _⟩ := findLineEnd_eq_some_iff.mp lineEnd
    exact laidOut.spare_of_next small counts before (breaksOf_pos_iff.mpr closes) order blank begins
      ends (fix_eq_of_atToken? report fixed ▸ deleted)

end BlankLines
