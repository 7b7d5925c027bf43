import BlankLines.Proofs.Rule.Measure
import BlankLines.Proofs.TokenFile.Gap

/-!
The blank lines before a closing brace. The rule counts them from the line on which the last token before
the brace begins, which is the line on which its text ends unless that token holds several lines.
-/
namespace BlankLines

/-- The line on which the text of a token ends, whether or not a line ending closes it. -/
def Token.endLine (eol : String) (token : Token) : Nat :=
  token.line + ((Text.pieces eol.toList token.content.toList).length - 1)

theorem Token.line_le_endLine (eol : String) (token : Token) : token.line ≤ token.endLine eol :=
  Nat.le_add_right _ _

namespace TokenFile

/-- No token but white space has text on a line. -/
def isBlankLine (file : TokenFile) (line : Nat) : Bool :=
  file.tokens.all fun token =>
    token.isWhitespace || !(token.line ≤ line && line ≤ token.endLine file.eol)

/-- How many blank lines there are below `low` and above `high`. -/
def blankLines (file : TokenFile) (low high : Nat) : Nat :=
  (List.range' (low + 1) (high - (low + 1))).countP file.isBlankLine

/-- The blank lines between the end of a token and the beginning of a later one, -1 if both are on one
line. -/
def blankLinesBetween (file : TokenFile) (leader brace : Token) : Int :=
  if leader.endLine file.eol = brace.line then -1
  else file.blankLines (leader.endLine file.eol) brace.line

variable {file : TokenFile} {low high : Nat} {first last : Token}

/-- The text of a token ends no lower than a later token begins. -/
theorem Counted.endLine_le (counted : file.Counted) (order : low < high)
    (begins : file.tokens[low]? = some first) (ends : file.tokens[high]? = some last) :
    first.endLine file.eol ≤ last.line := by
  have within : file.breaksOf low ≤ ∑ position ∈ Finset.Ico low high, file.breaksOf position :=
    Finset.single_le_sum (fun _ _ => Nat.zero_le _) (Finset.left_mem_Ico.mpr order)
  have pieces := Text.length_pieces_le file.eol.toList first.content.toList
  rw [breaksOf, begins, Option.elim_some, breaksIn] at within
  rw [counted.line_add (Nat.le_of_lt order) begins ends, Token.endLine]
  omega

theorem Counted.line_le (counted : file.Counted) (order : low ≤ high)
    (begins : file.tokens[low]? = some first) (ends : file.tokens[high]? = some last) :
    first.line ≤ last.line := by
  rw [counted.line_add order begins ends]
  exact Nat.le_add_right _ _

/-- All lines between the text of two solid tokens are blank if only white space is between them. -/
theorem Adjoin.isBlankLine (gap : file.Adjoin low high) (counted : file.Counted)
    (begins : file.tokens[low]? = some first) (ends : file.tokens[high]? = some last) {line : Nat}
    (below : first.endLine file.eol < line) (above : line < last.line) :
    file.isBlankLine line = true := by
  refine List.all_eq_true.mpr fun token member => ?_
  obtain ⟨position, found⟩ := List.mem_iff_getElem?.mp member
  cases kind : token.isWhitespace with
  | true => rfl
  | false =>
    have off : ¬ (token.line ≤ line ∧ line ≤ token.endLine file.eol) := by
      rintro ⟨from_line, to_line⟩
      have order : ¬ position < low := fun before => by
        have ended := counted.endLine_le before found begins
        have begun := first.line_le_endLine file.eol
        omega
      have order' : ¬ high ≤ position := fun behind => by
        have begun := counted.line_le behind ends found
        omega
      have here := gap.le_low (solidAt_iff.mpr ⟨token, found, kind⟩) (Nat.lt_of_not_le order')
      obtain rfl : position = low := by omega
      obtain rfl := Option.some.inj (found.symm.trans begins)
      omega
    rw [Bool.false_or, Bool.not_eq_true', ← Bool.not_eq_true, Bool.and_eq_true, decide_eq_true_eq,
      decide_eq_true_eq]
    exact off

theorem Adjoin.blankLinesBetween_eq (gap : file.Adjoin low high) (counted : file.Counted)
    (begins : file.tokens[low]? = some first) (ends : file.tokens[high]? = some last) :
    file.blankLinesBetween first last = (last.line : Int) - first.endLine file.eol - 1 := by
  have order := counted.endLine_le gap.order begins ends
  rw [blankLinesBetween]
  split
  · omega
  · next apart =>
    have all : file.blankLines (first.endLine file.eol) last.line =
        last.line - (first.endLine file.eol + 1) := by
      rw [blankLines, List.countP_eq_length.mpr, List.length_range']
      intro line between
      rw [List.mem_range'_1] at between
      exact gap.isBlankLine counted begins ends (by omega) (by omega)
    rw [all]
    omega

end TokenFile

namespace BraceSpacing

variable {file : TokenFile} {token : Token} {position closer before : Nat}

/-- In a file with lines that follow its text, the rule tells the number of blank lines before a closing
brace and, on top of it, the line endings within the text of the last token before the brace. So it tells
the blank lines exactly when that text ends on the line on which it begins. -/
theorem tellsClosing_blankLines_iff (lines : file.LineTrue) (small : file.LinesBelow Word.half)
    (found : file.tokens[position]? = some token)
    (kind : RuleId.braceSpacing.kinds.contains token.kind = true)
    (opens : token.scopeOpener.isSome = true) (closes : token.scopeCloser = some closer)
    (solid : file.solidAt closer = true) (earlier : ∃ place < closer, file.solidAt place = true)
    (count : before < Word.half) (after : Nat) (level : Level) :
    ∃ previous leader brace, file.Adjoin previous closer ∧ file.tokens[previous]? = some leader ∧
      file.tokens[closer]? = some brace ∧
      Check.closing.Tells ((Rule.braceSpacing after before).checkAt file position token level)
        token.content before
        (file.blankLinesBetween leader brace + (leader.endLine file.eol - leader.line : Nat)) ∧
      (Check.closing.Tells ((Rule.braceSpacing after before).checkAt file position token level)
        token.content before (file.blankLinesBetween leader brace) ↔
          leader.endLine file.eol = leader.line) := by
  obtain ⟨place, order, solidPlace⟩ := earlier
  obtain ⟨previous, gap, _⟩ := TokenFile.exists_adjoin_before solidPlace solid order
  obtain ⟨leader, begins, _⟩ := TokenFile.solidAt_iff.mp (TokenFile.adjoin_iff.mp gap).1
  obtain ⟨brace, ends, _⟩ := TokenFile.solidAt_iff.mp solid
  have inside := leader.line_le_endLine file.eol
  have between := gap.blankLinesBetween_eq lines.counted begins ends
  have apart : (brace.line : Int) - leader.line - 1 =
      file.blankLinesBetween leader brace + (leader.endLine file.eol - leader.line : Nat) := by
    rw [between]
    omega
  have behind : closer ≠ 0 := Nat.ne_zero_of_lt order
  have search := (TokenFile.findPrevious_eq_some_iff_adjoin solid behind).mpr gap
  have measures : Check.Measures file position .closing token.content
      ((brace.line : Int) - leader.line - 1) := .closing found opens closes ends behind search begins
  have told := measures.tells small (.closing after before) level
  have runs : (Rule.braceSpacing after before).checkAt file position token level =
      (Rule.braceSpacing after before).check file position level := if_pos kind
  rw [Word.signed_of_lt count, apart, ← runs] at told
  refine ⟨previous, leader, brace, gap, begins, ends, told, fun tells => ?_, fun same => ?_⟩
  · have equal := told.found_eq tells
    omega
  · rwa [same, Nat.sub_self, Int.natCast_zero, Int.add_zero] at told

def notedClass : Token :=
  { kind := .classDecl, line := 1, content := "class", scopeOpener := some 1, scopeCloser := some 5 }

def blockNote : Token :=
  { kind := .comment, line := 2, content := "/*\n*/" }

def lastBrace : Token :=
  { kind := .closeBrace, line := 4, content := "\x7d" }

/-- A class in which a comment of two lines comes last. -/
def notedBody : TokenFile where
  tokens := [
    notedClass,
    { kind := .openBrace, line := 1, content := "\x7b" },
    { kind := .whitespace, line := 1, content := "\n" },
    blockNote,
    { kind := .whitespace, line := 3, content := "\n" },
    lastBrace]

/-- The brace is on the line after the comment, but the rule tells of a blank line before it. -/
theorem tellsClosing_blankLines_iff_notedBody :
    notedBody.LineTrue ∧ notedBody.Adjoin 3 5 ∧ notedBody.blankLinesBetween blockNote lastBrace = 0 ∧
      Check.closing.Tells ((Rule.braceSpacing 0 0).checkAt notedBody 0 notedClass .error) "class" 0 1 ∧
      ¬ Check.closing.Tells ((Rule.braceSpacing 0 0).checkAt notedBody 0 notedClass .error) "class" 0 0 := by
  have lines : notedBody.LineTrue := by decide +kernel
  have small : notedBody.LinesBelow Word.half := by decide +kernel
  have found : notedBody.tokens[0]? = some notedClass := rfl
  have kind : RuleId.braceSpacing.kinds.contains notedClass.kind = true := by decide
  have solid : notedBody.solidAt 5 = true := by decide
  have earlier : ∃ place < 5, notedBody.solidAt place = true := ⟨1, by decide, by decide⟩
  have count : 0 < Word.half := by decide
  obtain ⟨previous, leader, brace, gap, begins, ends, told, exactly⟩ :=
    tellsClosing_blankLines_iff lines small found kind rfl rfl solid earlier count 0 .error
  have gap' : notedBody.Adjoin 3 5 := by decide +kernel
  obtain rfl : previous = 3 :=
    Nat.le_antisymm (gap'.le_low (TokenFile.adjoin_iff.mp gap).1 gap.order)
      (gap.le_low (TokenFile.adjoin_iff.mp gap').1 gap'.order)
  obtain rfl : blockNote = leader := Option.some.inj begins
  obtain rfl : lastBrace = brace := Option.some.inj ends
  have none : notedBody.blankLinesBetween blockNote lastBrace = 0 := by decide +kernel
  have spans : blockNote.endLine notedBody.eol = 3 := by decide +kernel
  rw [none, spans] at told exactly
  exact ⟨lines, gap', none, told, fun tells => absurd (exactly.mp tells) (by decide)⟩

end BraceSpacing

end BlankLines
