import BlankLines.Proofs.Rule.Report
import BlankLines.Proofs.Text.Number
import BlankLines.Proofs.TokenFile.Lines

/-!
What the rules measure. There are three checks, and each compares the lines between two tokens with a
count. Where it gets as far as these tokens, its reports tell of both numbers.
-/
namespace BlankLines

/-- The checks that compare the lines of a gap with a count. -/
inductive Check where
  | opening
  | closing
  | between
deriving Repr, DecidableEq

namespace Check

def rule : Check → RuleId
  | opening | closing => .braceSpacing
  | between => .methodSpacing

/-- The setting that holds the count. -/
def key : Check → String
  | opening => RuleId.afterOpeningKey
  | closing => RuleId.beforeClosingKey
  | between => RuleId.betweenMethodsKey

def code : Check → String
  | opening => BraceSpacing.openingCode
  | closing => BraceSpacing.closingCode
  | between => MethodSpacing.code

/-- The message, in which only those on braces name the declaration. -/
def message (check : Check) (declaration : String) (wanted found : Int) : String :=
  match check with
  | opening => BraceSpacing.openingMessage declaration wanted found
  | closing => BraceSpacing.closingMessage declaration wanted found
  | between => MethodSpacing.message wanted found

/-- The count of a rule that a check compares with. -/
inductive Compares : Check → Rule → Nat → Prop
  | opening (after before : Nat) : Compares opening (.braceSpacing after before) after
  | closing (after before : Nat) : Compares closing (.braceSpacing after before) before
  | between (count : Nat) : Compares between (.methodSpacing count) count

/-- A check that is run at a position gets as far as two tokens, so many lines apart. -/
inductive Measures (file : TokenFile) (position : Nat) : Check → String → Int → Prop
  | opening {token brace follower : Token} {opener next : Nat}
      (found : file.tokens[position]? = some token) (opens : token.scopeOpener = some opener)
      (closes : token.scopeCloser.isSome = true) (begins : file.tokens[opener]? = some brace)
      (search : file.findNext [.whitespace] (opener + 1) none true = some next)
      (ends : file.tokens[next]? = some follower)
      (apart : BraceSpacing.hugsOpening follower.kind = false) :
      Measures file position opening token.content ((follower.line : Int) - brace.line - 1)
  | closing {token leader brace : Token} {closer previous : Nat}
      (found : file.tokens[position]? = some token) (opens : token.scopeOpener.isSome = true)
      (closes : token.scopeCloser = some closer) (ends : file.tokens[closer]? = some brace)
      (behind : closer ≠ 0)
      (search : file.findPrevious [.whitespace] (closer - 1) none true = some previous)
      (begins : file.tokens[previous]? = some leader) :
      Measures file position closing token.content ((brace.line : Int) - leader.line - 1)
  | between {token first last : Token} {closer start next : Nat}
      (found : file.tokens[position]? = some token)
      (interface : MethodSpacing.declaresInterface file = false)
      (closes : MethodSpacing.closer? file position = some closer)
      (starts : MethodSpacing.nextLineStart? file closer = some start)
      (content : MethodSpacing.nextContent? file closer = some next)
      (inner : MethodSpacing.isLast file closer = false)
      (begins : file.tokens[start]? = some first) (ends : file.tokens[next]? = some last) :
      Measures file position between token.content ((last.line : Int) - first.line)

/-- Reports tell of one number of lines where another is wanted: there is one of the check exactly when
the numbers differ, and it states both. -/
def Tells (check : Check) (reports : List Violation) (declaration : String) (wanted found : Int) : Prop :=
  ((∃ violation ∈ reports, violation.code = check.code) ↔ found ≠ wanted) ∧
    ∀ violation ∈ reports, violation.code = check.code →
      violation.message = check.message declaration wanted found

variable {check : Check} {file : TokenFile} {position n : Nat} {level : Level} {rule : Rule}
  {reports : List Violation} {declaration : String} {wanted wanted' found found' : Int}

theorem wanted_of_message (same : check.message declaration wanted found =
    check.message declaration wanted' found) : wanted = wanted' := by
  refine Text.integer_inj ?_
  cases check with
  | opening | closing | between =>
    have front := (String.append_left_inj _).mp ((String.append_left_inj _).mp
      ((String.append_left_inj _).mp same))
    exact (String.append_right_inj _).mp front

theorem found_of_message (same : check.message declaration wanted found =
    check.message declaration wanted found') : found = found' := by
  refine Text.integer_inj ?_
  cases check with
  | opening | closing | between =>
    exact (String.append_right_inj _).mp ((String.append_left_inj _).mp same)

/-- What reports tell in two ways either is that nothing is wrong, or it is in the message of one of
them. -/
theorem Tells.fits_or_message_eq (tells : check.Tells reports declaration wanted found)
    (tells' : check.Tells reports declaration wanted' found') :
    (found = wanted ∧ found' = wanted') ∨
      check.message declaration wanted found = check.message declaration wanted' found' := by
  by_cases fits : found = wanted
  · have silent := mt tells.1.mp (not_not.mpr fits)
    exact .inl ⟨fits, not_not.mp (mt tells'.1.mpr silent)⟩
  · obtain ⟨violation, reported, code⟩ := tells.1.mpr fits
    exact .inr ((tells.2 violation reported code).symm.trans (tells'.2 violation reported code))

/-- Reports tell that one number is wanted, and no other. -/
theorem Tells.wanted_eq (tells : check.Tells reports declaration wanted found)
    (tells' : check.Tells reports declaration wanted' found) : wanted = wanted' := by
  rcases tells.fits_or_message_eq tells' with ⟨fits, fits'⟩ | same
  · exact fits.symm.trans fits'
  · exact wanted_of_message same

/-- Reports tell that one number was found, and no other. -/
theorem Tells.found_eq (tells : check.Tells reports declaration wanted found)
    (tells' : check.Tells reports declaration wanted found') : found = found' := by
  rcases tells.fits_or_message_eq tells' with ⟨fits, fits'⟩ | same
  · exact fits.trans fits'.symm
  · exact found_of_message same

/-- Reports of a check that are made where the numbers differ, and state them. -/
theorem tells_of_mem_iff {place : Nat} {token : Token} {name : String} {repair : Changeset}
    (there : file.tokens[place]? = some token)
    (reports_iff : ∀ violation, violation ∈ reports ∧ violation.code = check.code ↔
      found ≠ wanted ∧ Violation.atToken? file place name check.code level
        (check.message declaration wanted found) repair = some violation) :
    check.Tells reports declaration wanted found := by
  refine ⟨⟨?_, fun differs => ?_⟩, fun violation reported code => ?_⟩
  · rintro ⟨violation, reported, code⟩
    exact ((reports_iff violation).mp ⟨reported, code⟩).1
  · obtain ⟨violation, report⟩ := Violation.exists_atToken? there name check.code level
      (check.message declaration wanted found) repair
    obtain ⟨reported, code⟩ := (reports_iff violation).mpr ⟨differs, report⟩
    exact ⟨violation, reported, code⟩
  · obtain ⟨_, _, rfl⟩ :=
      Violation.atToken?_eq_some_iff.mp ((reports_iff violation).mp ⟨reported, code⟩).2
    rfl

/-- A check that measures a gap tells its lines and the signed reading of the count. -/
theorem Measures.tells (measures : Measures file position check declaration found)
    (small : file.LinesBelow Word.half) (compares : check.Compares rule n) (level : Level) :
    check.Tells (rule.check file position level) declaration (Word.signed n) found := by
  cases measures with
  | opening here opens closes begins search ends apart =>
    cases compares with
    | opening _ before =>
      obtain ⟨closer, closes⟩ := Option.isSome_iff_exists.mp closes
      rw [← small.lineDelta_eq begins ends]
      apply tells_of_mem_iff begins
      intro violation
      rw [Rule.check, code, BraceSpacing.mem_check_opening_iff here opens closes,
        BraceSpacing.checkOpening_eq_some_iff]
      constructor
      · rintro ⟨_, _, _, begins', search', ends', _, report⟩
        obtain rfl := Option.some.inj (begins.symm.trans begins')
        obtain rfl := Option.some.inj (search.symm.trans search')
        obtain rfl := Option.some.inj (ends.symm.trans ends')
        exact report
      · exact fun report => ⟨_, _, _, begins, search, ends, apart, report⟩
  | closing here opens closes ends behind search begins =>
    cases compares with
    | closing after _ =>
      obtain ⟨opener, opens⟩ := Option.isSome_iff_exists.mp opens
      rw [← small.lineDelta_eq begins ends]
      apply tells_of_mem_iff ends
      intro violation
      rw [Rule.check, code, BraceSpacing.mem_check_closing_iff here opens closes,
        BraceSpacing.checkClosing_eq_some_iff]
      constructor
      · rintro ⟨_, _, _, ends', _, search', begins', report⟩
        obtain rfl := Option.some.inj (ends.symm.trans ends')
        obtain rfl := Option.some.inj (search.symm.trans search')
        obtain rfl := Option.some.inj (begins.symm.trans begins')
        exact report
      · exact fun report => ⟨_, _, _, ends, behind, search, begins, report⟩
  | between here interface closes starts content inner begins ends =>
    cases compares with
    | between =>
      rw [← small.lineDelta_eq begins ends]
      apply tells_of_mem_iff here
      intro violation
      rw [Rule.check, code, MethodSpacing.mem_check_iff]
      constructor
      · rintro ⟨⟨_, _, _, _, _, _, closes', starts', content', begins', ends', _, report⟩, _⟩
        obtain rfl := Option.some.inj (closes.symm.trans closes')
        obtain rfl := Option.some.inj (starts.symm.trans starts')
        obtain rfl := Option.some.inj (content.symm.trans content')
        obtain rfl := Option.some.inj (begins.symm.trans begins')
        obtain rfl := Option.some.inj (ends.symm.trans ends')
        exact report
      · intro report
        refine ⟨⟨interface, _, _, _, _, _, closes, starts, content, begins, ends, inner, report⟩, ?_⟩
        obtain ⟨_, _, rfl⟩ := Violation.atToken?_eq_some_iff.mp report.2
        rfl

end Check

end BlankLines
