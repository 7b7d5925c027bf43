import BlankLines.Proofs.Fixer.Repair
import BlankLines.Proofs.Linter.Preservation

/-!
Brace spacing by gaps. The rule wants a number of blank lines in some gaps between neighbouring solid
tokens, reports those that have another number, and proposes the repair of the gap. One pass makes one
repair in each of them, so that the rule has nothing left to report.
-/
namespace BlankLines.BraceSpacing

open TokenFile

/-- The linter that runs this rule alone. -/
def alone (afterOpening beforeClosing : Nat) (level : Level) : Linter where
  rules := [(.braceSpacing afterOpening beforeClosing, level)]

/-- The positions of the braces around the body of each class and interface that has one. -/
def bodies (file : TokenFile) : List (Nat × Nat) :=
  file.tokens.filterMap fun token =>
    if RuleId.braceSpacing.kinds.contains token.kind then
      token.scopeOpener.bind fun opener => token.scopeCloser.map fun closer => (opener, closer)
    else none

/-- How many blank lines the rule wants in a gap. Two answers are possible where the gap is all that a
body holds. -/
inductive Wants (afterOpening beforeClosing : Nat) (file : TokenFile) (low high : Nat) : Nat → Prop where
  | opening {closer : Nat} {follower : Token} (body : (low, closer) ∈ bodies file)
      (follows : file.tokens[high]? = some follower) (held : hugsOpening follower.kind = false) :
      Wants afterOpening beforeClosing file low high afterOpening
  | closing {opener : Nat} (body : (opener, high) ∈ bodies file) :
      Wants afterOpening beforeClosing file low high beforeClosing

/-- Braces stand at solid tokens. -/
def BracesSolid (file : TokenFile) : Prop :=
  ∀ body ∈ bodies file, file.solidAt body.1 = true ∧ file.solidAt body.2 = true

/-- An opening brace with a closing one behind it, not necessarily of the same body. -/
def BracesMeet (file : TokenFile) : Prop :=
  ∃ low high, file.Adjoin low high ∧
    low ∈ (bodies file).map (·.1) ∧ high ∈ (bodies file).map (·.2)

instance (file : TokenFile) : Decidable (BracesSolid file) :=
  inferInstanceAs (Decidable (∀ body ∈ bodies file, _))

instance (file : TokenFile) : Decidable (BracesMeet file) :=
  decidable_of_iff (∃ low ∈ (bodies file).map (·.1), ∃ high ∈ (bodies file).map (·.2),
      file.Adjoin low high)
    ⟨fun ⟨low, opens, high, closes, gap⟩ => ⟨low, high, gap, opens, closes⟩,
      fun ⟨low, high, gap, opens, closes⟩ => ⟨low, opens, high, closes, gap⟩⟩

variable {file : TokenFile} {corrections : List Correction} {level : Level} {violation : Violation}
  {afterOpening beforeClosing wanted low high opener closer : Nat} {token : Token}

theorem mem_bodies : (opener, closer) ∈ bodies file ↔ ∃ token ∈ file.tokens,
    RuleId.braceSpacing.kinds.contains token.kind = true ∧
      token.scopeOpener = some opener ∧ token.scopeCloser = some closer := by
  simp only [bodies, List.mem_filterMap, Option.ite_none_right_eq_some, Option.bind_eq_some_iff,
    Option.map_eq_some_iff, Prod.mk.injEq]
  constructor
  · rintro ⟨token, member, kind, opener, opens, closer, closes, rfl, rfl⟩
    exact ⟨token, member, kind, opens, closes⟩
  · rintro ⟨token, member, kind, opens, closes⟩
    exact ⟨token, member, kind, opener, opens, closer, closes, rfl, rfl⟩

theorem fix_of_report (gap : file.Adjoin low high) (laidOut : file.LaidOut)
    (small : file.LinesBelow Word.half) (count : wanted < Word.half) {first last : Token}
    (begins : file.tokens[low]? = some first) (ends : file.tokens[high]? = some last)
    (wrong : last.lineDelta first - 1 ≠ Word.signed wanted) {place : Nat} {rule code message : String}
    (reported : Violation.atToken? file place rule code level message
      (gapRepair (last.lineDelta first - 1) (Word.signed wanted) low
        (file.lineBreaks (low + 1) high)) = some violation) :
    ∑ position ∈ Finset.Ico low high, file.breaksOf position ≠ wanted + 1 ∧
      violation.fix = some (file.repairGap wanted low high) := by
  have delta := gap.lineDelta_eq laidOut small begins ends
  rw [delta, Word.signed_of_lt count] at wrong
  have wrong : ∑ position ∈ Finset.Ico low high, file.breaksOf position ≠ wanted + 1 := by omega
  rw [delta, Word.signed_of_lt count] at reported
  refine ⟨wrong, ?_⟩
  rw [Violation.fix_atToken? reported, if_neg]
  · rfl
  · rw [List.isEmpty_iff]
    exact repairGap_ne_nil laidOut gap wrong

/-- The rule reports nothing but gaps without the blank lines that are wanted there. -/
theorem gap_of_check (laidOut : file.LaidOut) (small : file.LinesBelow Word.half)
    (solid : BracesSolid file) (afterSmall : afterOpening < Word.half)
    (beforeSmall : beforeClosing < Word.half) {position : Nat}
    (found : file.tokens[position]? = some token)
    (kind : RuleId.braceSpacing.kinds.contains token.kind = true)
    (reported : violation ∈ check afterOpening beforeClosing file position level) :
    ∃ low high wanted, file.Adjoin low high ∧
      Wants afterOpening beforeClosing file low high wanted ∧
      ∑ position ∈ Finset.Ico low high, file.breaksOf position ≠ wanted + 1 ∧
      violation.fix = some (file.repairGap wanted low high) := by
  obtain ⟨other, opener, closer, found', opens, closes, opening | closing⟩ := mem_check_iff.mp reported
  all_goals
    obtain rfl := Option.some.inj (found.symm.trans found')
    have body := mem_bodies.mpr ⟨token, List.mem_of_getElem? found, kind, opens, closes⟩
    obtain ⟨solidOpener, solidCloser⟩ := solid _ body
  · obtain ⟨brace, next, follower, begins, search, ends, held, wrong, report⟩ :=
      checkOpening_eq_some_iff.mp opening
    have gap := (findNext_eq_some_iff_adjoin solidOpener).mp search
    exact ⟨opener, next, afterOpening, gap, .opening body ends held,
      fix_of_report gap laidOut small afterSmall begins ends wrong report⟩
  · obtain ⟨brace, previous, leader, ends, inside, search, begins, wrong, report⟩ :=
      checkClosing_eq_some_iff.mp closing
    have gap := (findPrevious_eq_some_iff_adjoin solidCloser inside).mp search
    exact ⟨previous, closer, beforeClosing, gap, .closing body,
      fix_of_report gap laidOut small beforeSmall begins ends wrong report⟩

theorem gap_of_lint (laidOut : file.LaidOut) (small : file.LinesBelow Word.half)
    (solid : BracesSolid file) (afterSmall : afterOpening < Word.half)
    (beforeSmall : beforeClosing < Word.half)
    (reported : violation ∈ (alone afterOpening beforeClosing level).lint file) :
    ∃ low high wanted, file.Adjoin low high ∧
      Wants afterOpening beforeClosing file low high wanted ∧
      ∑ position ∈ Finset.Ico low high, file.breaksOf position ≠ wanted + 1 ∧
      violation.fix = some (file.repairGap wanted low high) := by
  obtain ⟨position, token, rule, level, found, active, kind, checked⟩ :=
    Linter.mem_lint_iff.mp reported
  obtain ⟨rfl, rfl⟩ := Prod.mk.inj (List.mem_singleton.mp active)
  exact gap_of_check laidOut small solid afterSmall beforeSmall found kind checked

theorem checkOpening_of_gap (gap : file.Adjoin low high) (laidOut : file.LaidOut)
    (small : file.LinesBelow Word.half) (count : wanted < Word.half) {follower : Token}
    (follows : file.tokens[high]? = some follower) (held : hugsOpening follower.kind = false)
    (wrong : ∑ position ∈ Finset.Ico low high, file.breaksOf position ≠ wanted + 1)
    (declaration : String) (level : Level) :
    ∃ violation, checkOpening wanted file declaration low level = some violation ∧
      violation.fix = some (file.repairGap wanted low high) := by
  obtain ⟨solid, _⟩ := adjoin_iff.mp gap
  obtain ⟨brace, begins, _⟩ := solidAt_iff.mp solid
  have off : follower.lineDelta brace - 1 ≠ Word.signed wanted := by
    rw [gap.lineDelta_eq laidOut small begins follows, Word.signed_of_lt count]
    omega
  obtain ⟨violation, report⟩ := Violation.exists_atToken? begins RuleId.braceSpacing.name openingCode
    level (openingMessage declaration (Word.signed wanted) (follower.lineDelta brace - 1))
    (gapRepair (follower.lineDelta brace - 1) (Word.signed wanted) low
      (file.lineBreaks (low + 1) high))
  have search := (findNext_eq_some_iff_adjoin solid).mpr gap
  exact ⟨violation, checkOpening_eq_some_iff.mpr
    ⟨brace, high, follower, begins, search, follows, held, off, report⟩,
    (fix_of_report gap laidOut small count begins follows off report).2⟩

theorem checkClosing_of_gap (gap : file.Adjoin low high) (laidOut : file.LaidOut)
    (small : file.LinesBelow Word.half) (count : wanted < Word.half)
    (wrong : ∑ position ∈ Finset.Ico low high, file.breaksOf position ≠ wanted + 1)
    (declaration : String) (level : Level) :
    ∃ violation, checkClosing wanted file declaration high level = some violation ∧
      violation.fix = some (file.repairGap wanted low high) := by
  obtain ⟨solidLow, solidHigh, order, _⟩ := adjoin_iff.mp gap
  obtain ⟨leader, begins, _⟩ := solidAt_iff.mp solidLow
  obtain ⟨brace, ends, _⟩ := solidAt_iff.mp solidHigh
  have inside : high ≠ 0 := Nat.ne_zero_of_lt order
  have off : brace.lineDelta leader - 1 ≠ Word.signed wanted := by
    rw [gap.lineDelta_eq laidOut small begins ends, Word.signed_of_lt count]
    omega
  obtain ⟨violation, report⟩ := Violation.exists_atToken? ends RuleId.braceSpacing.name closingCode
    level (closingMessage declaration (Word.signed wanted) (brace.lineDelta leader - 1))
    (gapRepair (brace.lineDelta leader - 1) (Word.signed wanted) low
      (file.lineBreaks (low + 1) high))
  have search := (findPrevious_eq_some_iff_adjoin solidHigh inside).mpr gap
  exact ⟨violation, checkClosing_eq_some_iff.mpr
    ⟨brace, low, leader, ends, inside, search, begins, off, report⟩,
    (fix_of_report gap laidOut small count begins ends off report).2⟩

/-- The rule reports every gap without the blank lines that are wanted there. -/
theorem check_of_gap (laidOut : file.LaidOut) (small : file.LinesBelow Word.half)
    (afterSmall : afterOpening < Word.half) (beforeSmall : beforeClosing < Word.half)
    (level : Level) (gap : file.Adjoin low high)
    (wants : Wants afterOpening beforeClosing file low high wanted)
    (wrong : ∑ position ∈ Finset.Ico low high, file.breaksOf position ≠ wanted + 1) :
    ∃ position token, file.tokens[position]? = some token ∧
      RuleId.braceSpacing.kinds.contains token.kind = true ∧
      ∃ violation ∈ check afterOpening beforeClosing file position level,
        violation.fix = some (file.repairGap wanted low high) := by
  cases wants with
  | opening body follows held =>
    obtain ⟨token, member, kind, opens, closes⟩ := mem_bodies.mp body
    obtain ⟨position, found⟩ := List.mem_iff_getElem?.mp member
    obtain ⟨violation, opening, fixed⟩ :=
      checkOpening_of_gap gap laidOut small afterSmall follows held wrong token.content level
    exact ⟨position, token, found, kind, violation,
      mem_check_iff.mpr ⟨token, low, _, found, opens, closes, .inl opening⟩, fixed⟩
  | closing body =>
    obtain ⟨token, member, kind, opens, closes⟩ := mem_bodies.mp body
    obtain ⟨position, found⟩ := List.mem_iff_getElem?.mp member
    obtain ⟨violation, closing, fixed⟩ :=
      checkClosing_of_gap gap laidOut small beforeSmall wrong token.content level
    exact ⟨position, token, found, kind, violation,
      mem_check_iff.mpr ⟨token, _, high, found, opens, closes, .inr closing⟩, fixed⟩

theorem lint_of_gap (laidOut : file.LaidOut) (small : file.LinesBelow Word.half)
    (afterSmall : afterOpening < Word.half) (beforeSmall : beforeClosing < Word.half)
    (level : Level) (gap : file.Adjoin low high)
    (wants : Wants afterOpening beforeClosing file low high wanted)
    (wrong : ∑ position ∈ Finset.Ico low high, file.breaksOf position ≠ wanted + 1) :
    ∃ violation ∈ (alone afterOpening beforeClosing level).lint file,
      violation.fix = some (file.repairGap wanted low high) := by
  obtain ⟨position, token, found, kind, violation, reported, fixed⟩ :=
    check_of_gap laidOut small afterSmall beforeSmall level gap wants wrong
  exact ⟨violation, Linter.mem_lint_iff.mpr ⟨position, token, _, level, found,
    List.mem_singleton_self _, kind, reported⟩, fixed⟩

theorem Wants.unique {wanted' : Nat} (gap : file.Adjoin low high)
    (agree : afterOpening = beforeClosing ∨ ¬ BracesMeet file)
    (wants : Wants afterOpening beforeClosing file low high wanted)
    (wants' : Wants afterOpening beforeClosing file low high wanted') : wanted' = wanted := by
  have meet {opener closer : Nat} (opens : (low, closer) ∈ bodies file)
      (closes : (opener, high) ∈ bodies file) : afterOpening = beforeClosing := by
    refine agree.resolve_right fun apart => apart ⟨low, high, gap, ?_, ?_⟩
    · exact List.mem_map_of_mem (f := (·.1)) opens
    · exact List.mem_map_of_mem (f := (·.2)) closes
  cases wants with
  | opening body => cases wants' with
    | opening => rfl
    | closing body' => exact (meet body body').symm
  | closing body => cases wants' with
    | opening body' => exact meet body' body
    | closing => rfl

section Pass

variable (laidOut : file.LaidOut) (small : file.LinesBelow Word.half) (solid : BracesSolid file)
  (afterSmall : afterOpening < Word.half) (beforeSmall : beforeClosing < Word.half)
  (agree : afterOpening = beforeClosing ∨ ¬ BracesMeet file) (gap : file.Adjoin low high)
  (wants : Wants afterOpening beforeClosing file low high wanted)

include laidOut small solid afterSmall beforeSmall agree gap wants

theorem outside_or_repairGap (level : Level) (changeset : Changeset) (offered : changeset ∈
    ((alone afterOpening beforeClosing level).lint file).filterMap (·.fix)) :
    Fixer.Outside (inGap low high) changeset ∨ changeset = file.repairGap wanted low high ∧
      ∑ position ∈ Finset.Ico low high, file.breaksOf position ≠ wanted + 1 := by
  obtain ⟨violation, reported, fixed⟩ := List.mem_filterMap.mp offered
  obtain ⟨low', high', wanted', gap', wants', wrong', fixed'⟩ :=
    gap_of_lint laidOut small solid afterSmall beforeSmall reported
  obtain rfl := Option.some.inj (fixed.symm.trans fixed')
  by_cases outside : Fixer.Outside (inGap low high) (file.repairGap wanted' low' high')
  · exact .inl outside
  · -- A fix that enters the gap is the repair of a gap that meets it, so of this one.
    simp only [Fixer.Outside, not_forall, Bool.not_eq_false] at outside
    obtain ⟨correction, member, inside⟩ := outside
    obtain ⟨above, below⟩ := of_decide_eq_true inside
    obtain ⟨above', below'⟩ := of_decide_eq_true (inGap_of_repairGap gap' _ correction member)
    obtain ⟨rfl, rfl⟩ := gap.eq_of_meet gap' above below above' below'
    obtain rfl := wants.unique gap agree wants'
    exact .inr ⟨rfl, wrong'⟩

/-- A pass leaves each gap with one line ending and one for each blank line that is wanted. -/
theorem sum_breaksAfter_corrections (level : Level) :
    ∑ position ∈ Finset.Ico low high, file.breaksAfter
      ((alone afterOpening beforeClosing level).corrections file) position = wanted + 1 := by
  refine Fixer.sum_breaksAfter_accepted laidOut gap (Nat.le_refl low) gap.order
    (outside_or_repairGap laidOut small solid afterSmall beforeSmall agree gap wants level) ?_
  intro wrong
  obtain ⟨violation, reported, fixed⟩ :=
    lint_of_gap laidOut small afterSmall beforeSmall level gap wants wrong
  exact List.mem_filterMap.mpr ⟨violation, reported, fixed⟩

end Pass

theorem solid_of_kinds (kind : RuleId.braceSpacing.kinds.contains token.kind = true) :
    token.isWhitespace = false := by
  by_contra white
  have white : token.kind = .whitespace := by simpa [Token.isWhitespace] using white
  rw [white] at kind
  exact absurd kind (by decide)

theorem of_bodies_revise {opener' closer' : Nat}
    (body : (opener', closer') ∈ bodies (file.revise corrections)) :
    ∃ opener closer, (opener, closer) ∈ bodies file ∧
      opener' = file.moved corrections opener ∧ closer' = file.moved corrections closer := by
  obtain ⟨token', member, kind, opens, closes⟩ := mem_bodies.mp body
  obtain ⟨place, found⟩ := List.mem_iff_getElem?.mp member
  obtain ⟨token, here, original, _, _, sameKind, opener, closer⟩ :=
    exists_of_getElem?_revise found (solid_of_kinds kind)
  rw [sameKind] at kind
  rw [opener, Option.map_eq_some_iff] at opens
  rw [closer, Option.map_eq_some_iff] at closes
  obtain ⟨opener, opens, rfl⟩ := opens
  obtain ⟨closer, closes, rfl⟩ := closes
  exact ⟨opener, closer, mem_bodies.mpr ⟨token, List.mem_of_getElem? original, kind, opens, closes⟩,
    rfl, rfl⟩

theorem bodies_revise (body : (opener, closer) ∈ bodies file) (corrections : List Correction) :
    (file.moved corrections opener, file.moved corrections closer) ∈
      bodies (file.revise corrections) := by
  obtain ⟨token, member, kind, opens, closes⟩ := mem_bodies.mp body
  obtain ⟨here, found⟩ := List.mem_iff_getElem?.mp member
  refine mem_bodies.mpr ⟨_, List.mem_of_getElem? (getElem?_revise corrections found
    (solid_of_kinds kind)), kind, ?_, ?_⟩
  · rw [opens, Option.map_some]
  · rw [closes, Option.map_some]

theorem BracesSolid.revise (solid : BracesSolid file) (corrections : List Correction) :
    BracesSolid (file.revise corrections) := by
  rintro ⟨opener', closer'⟩ body
  obtain ⟨opener, closer, original, rfl, rfl⟩ := of_bodies_revise body
  obtain ⟨solidOpener, solidCloser⟩ := solid _ original
  exact ⟨(abreast_moved solidOpener corrections).solid', (abreast_moved solidCloser corrections).solid'⟩

theorem Wants.of_revise (solid : BracesSolid file) (gap : file.Adjoin low high)
    (wants : Wants afterOpening beforeClosing (file.revise corrections)
      (file.moved corrections low) (file.moved corrections high) wanted) :
    Wants afterOpening beforeClosing file low high wanted := by
  obtain ⟨solidLow, solidHigh, _⟩ := adjoin_iff.mp gap
  cases wants with
  | opening body follows held =>
    obtain ⟨opener, closer, original, meet, _⟩ := of_bodies_revise body
    obtain rfl := moved_inj solidLow (solid _ original).1 meet
    obtain ⟨last, ends, lastSolid⟩ := solidAt_iff.mp solidHigh
    have there := getElem?_revise corrections ends lastSolid
    obtain rfl := Option.some.inj (there.symm.trans follows)
    exact .opening original ends held
  | closing body =>
    obtain ⟨opener, closer, original, _, meet⟩ := of_bodies_revise body
    obtain rfl := moved_inj solidHigh (solid _ original).2 meet
    exact .closing original

theorem Wants.revise (gap : file.Adjoin low high)
    (wants : Wants afterOpening beforeClosing file low high wanted) (corrections : List Correction) :
    Wants afterOpening beforeClosing (file.revise corrections)
      (file.moved corrections low) (file.moved corrections high) wanted := by
  obtain ⟨_, solidHigh, _⟩ := adjoin_iff.mp gap
  cases wants with
  | opening body follows held =>
    obtain ⟨follower, ends, solid⟩ := solidAt_iff.mp solidHigh
    obtain rfl := Option.some.inj (ends.symm.trans follows)
    exact .opening (bodies_revise body corrections) (getElem?_revise corrections ends solid) held
  | closing body => exact .closing (bodies_revise body corrections)

/-- One pass leaves this rule nothing to report. -/
theorem lint_pass_eq_nil (laidOut : file.LaidOut) (solid : BracesSolid file)
    (afterSmall : afterOpening < Word.half) (beforeSmall : beforeClosing < Word.half)
    (small : file.LinesBelow Word.half)
    (smallAfter : ((alone afterOpening beforeClosing level).pass file).LinesBelow Word.half)
    (agree : afterOpening = beforeClosing ∨ ¬ BracesMeet file) :
    (alone afterOpening beforeClosing level).lint
      ((alone afterOpening beforeClosing level).pass file) = [] := by
  rw [List.eq_nil_iff_forall_not_mem]
  intro violation reported
  rw [Linter.pass_eq] at reported smallAfter
  obtain ⟨low', high', wanted, gap', wants', wrong, _⟩ :=
    gap_of_lint (laidOut.revise _) smallAfter (solid.revise _) afterSmall beforeSmall reported
  obtain ⟨low, high, gap, rfl, rfl⟩ := gap'.of_revise
  have wants := wants'.of_revise solid gap
  apply wrong
  rw [gap.sum_breaksOf_revise laidOut]
  exact sum_breaksAfter_corrections laidOut small solid afterSmall beforeSmall agree gap wants level

def unevenBody : TokenFile where
  tokens := [
    { kind := .classDecl, line := 1, content := "class", scopeOpener := some 1,
      scopeCloser := some 6 },
    { kind := .openBrace, line := 1, content := "\x7b" },
    { kind := .whitespace, line := 1, content := "\n" },
    { kind := .whitespace, line := 2, content := "\n" },
    { kind := .whitespace, line := 3, content := "\n" },
    { kind := .other, line := 4, content := "x" },
    { kind := .closeBrace, line := 4, content := "\x7d" }]

theorem lint_pass_unevenBody : ((alone 1 0 .error).lint unevenBody).length = 2 ∧
    (alone 1 0 .error).lint ((alone 1 0 .error).pass unevenBody) = [] :=
  ⟨by decide +kernel,
    lint_pass_eq_nil (by decide +kernel) (by decide +kernel) (by decide) (by decide)
      (by decide +kernel) (by decide +kernel) (.inr (by decide +kernel))⟩

end BlankLines.BraceSpacing
