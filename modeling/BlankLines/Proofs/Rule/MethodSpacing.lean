import BlankLines.Proofs.Rule.Surplus
import BlankLines.Proofs.TokenFile.Gap

/-!
Method spacing by gaps. Behind a method the rule measures the gap between solid tokens in which the line
of its closing token ends, unless a closing brace follows that gap. It reports the gap if it has not the
blank lines that are wanted, and proposes a repair that adds missing lines two tokens before the end of
the gap.
-/
namespace BlankLines.MethodSpacing

open TokenFile

/-- The closing tokens of the methods of a file. -/
def ends (file : TokenFile) : List Nat :=
  file.tokens.zipIdx.filterMap fun (token, position) =>
    if RuleId.methodSpacing.kinds.contains token.kind then closer? file position else none

/-- Closing braces of methods stand at solid tokens. -/
def ClosersSolid (file : TokenFile) : Prop :=
  ∀ token ∈ file.tokens, token.kind = .functionDecl → token.scopeCloser.all file.solidAt = true

instance (file : TokenFile) : Decidable (ClosersSolid file) :=
  inferInstanceAs (Decidable (∀ token ∈ file.tokens, _))

/-- The line on which a token stands ends in a gap between solid tokens. -/
structure LineEndsIn (file : TokenFile) (closer low high : Nat) : Prop where
  gap : file.Adjoin low high
  behind : closer ≤ low
  unbroken : ∑ position ∈ Finset.Ico closer low, file.breaksOf position = 0
  broken : 0 < ∑ position ∈ Finset.Ico low high, file.breaksOf position

/-- The line on which a method closes ends in a gap between solid tokens, and what follows the gap is
not a closing brace. -/
structure Trails (file : TokenFile) (closer low high : Nat) : Prop extends
    LineEndsIn file closer low high where
  inner : ∀ next, file.tokens[high]? = some next → next.kind ≠ .closeBrace

variable {file : TokenFile} {level : Level} {violation : Violation}
  {corrections : List Correction} {between closer low high start stop position : Nat} {token : Token}

theorem mem_ends : closer ∈ ends file ↔ ∃ position token, file.tokens[position]? = some token ∧
    RuleId.methodSpacing.kinds.contains token.kind = true ∧ closer? file position = some closer := by
  simp only [ends, List.mem_filterMap, Prod.exists, List.mem_zipIdx_iff_getElem?,
    Option.ite_none_right_eq_some]
  constructor
  · rintro ⟨token, position, found, kind, closes⟩
    exact ⟨position, token, found, kind, closes⟩
  · rintro ⟨position, token, found, kind, closes⟩
    exact ⟨token, position, found, kind, closes⟩

theorem kinds_contains_iff :
    RuleId.methodSpacing.kinds.contains token.kind = true ↔ token.kind = .functionDecl := by
  simp [RuleId.kinds]

theorem closer?_eq (found : file.tokens[position]? = some token) :
    closer? file position =
      token.scopeCloser.or (file.findNext [.semicolon] position none false) := by
  rw [closer?, found]
  rfl

/-- A semicolon is solid, so it is enough to know that of the closing braces. -/
theorem ClosersSolid.ends (closed : ClosersSolid file) (ended : closer ∈ ends file) :
    file.solidAt closer = true := by
  obtain ⟨position, token, found, kind, closes⟩ := mem_ends.mp ended
  rw [closer?_eq found] at closes
  cases scope : token.scopeCloser with
  | some brace =>
    have solid := closed token (List.mem_of_getElem? found) (kinds_contains_iff.mp kind)
    rw [scope, Option.some_or, Option.some.injEq] at closes
    rw [scope, Option.all_some, closes] at solid
    exact solid
  | none =>
    rw [scope, Option.none_or] at closes
    obtain ⟨_, _, ⟨semicolon, here, wanted⟩, _⟩ := findNext_eq_some_iff.mp closes
    rw [solidAt_iff]
    exact ⟨semicolon, here, by rw [Token.isWhitespace, isWanted_kind.mp wanted]; rfl⟩

theorem findLineEnd_eq_some_iff_breaksOf : file.findLineEnd start = some stop ↔
    start ≤ stop ∧ 0 < file.breaksOf stop ∧
      ∀ earlier, start ≤ earlier → earlier < stop → file.breaksOf earlier = 0 := by
  have quiet (earlier : Nat) : file.breaksOf earlier = 0 ↔
      ∀ token, file.tokens[earlier]? = some token → file.endsLine token = false := by
    rw [← Nat.le_zero, ← Nat.not_lt, breaksOf_pos_iff]
    simp
  simp only [findLineEnd_eq_some_iff, breaksOf_pos_iff, quiet]

theorem nextLineStart?_eq_some_iff : nextLineStart? file closer = some start ↔
    start < file.tokens.length ∧ ∃ stop, file.findLineEnd closer = some stop ∧ start = stop + 1 := by
  simp only [nextLineStart?, Option.bind_eq_bind, Option.bind_eq_some_iff,
    Option.ite_none_right_eq_some, Option.some.injEq]
  constructor
  · rintro ⟨stop, lineEnd, inside, rfl⟩
    exact ⟨inside, stop, lineEnd, rfl⟩
  · rintro ⟨inside, stop, lineEnd, rfl⟩
    exact ⟨stop, lineEnd, inside, rfl⟩

/-- The next line starts behind the first line ending of the gap, and the next content ends the gap. -/
theorem LineEndsIn.exists_stop (lineEnds : LineEndsIn file closer low high) :
    ∃ stop, low ≤ stop ∧ stop < high ∧ 0 < file.breaksOf stop ∧
      (∀ earlier, closer ≤ earlier → earlier < stop → file.breaksOf earlier = 0) ∧
      nextLineStart? file closer = some (stop + 1) ∧ nextContent? file closer = some high := by
  obtain ⟨_, solidHigh, order, blank⟩ := adjoin_iff.mp lineEnds.gap
  obtain ⟨stop, within, breaks, earliest⟩ := exists_first_break lineEnds.broken
  obtain ⟨above, below⟩ := Finset.mem_Ico.mp within
  have quiet : ∀ earlier, closer ≤ earlier → earlier < stop → file.breaksOf earlier = 0 := by
    intro earlier behind before
    rcases Nat.lt_or_ge earlier low with outside | inside
    · exact Finset.sum_eq_zero_iff.mp lineEnds.unbroken earlier (Finset.mem_Ico.mpr ⟨behind, outside⟩)
    · exact earliest earlier inside before
  obtain ⟨last, ends, lastSolid⟩ := solidAt_iff.mp solidHigh
  obtain ⟨bound, _⟩ := List.getElem?_eq_some_iff.mp ends
  have starts : nextLineStart? file closer = some (stop + 1) :=
    nextLineStart?_eq_some_iff.mpr ⟨Nat.lt_of_le_of_lt below bound, stop,
      findLineEnd_eq_some_iff_breaksOf.mpr ⟨lineEnds.behind.trans above, breaks, quiet⟩, rfl⟩
  refine ⟨stop, above, below, breaks, quiet, starts, ?_⟩
  simp only [nextContent?, starts, Option.bind_eq_bind, Option.bind_some, findNext_eq_some_iff,
    isWanted_white, reduceCtorEq, false_implies, implies_true, true_and]
  refine ⟨below, ⟨last, ends, by simp [lastSolid]⟩, ?_⟩
  intro position after before other found
  simp [blank position (by omega) before other found]

/-- The next line starts one line below the gap's first token, or below the line endings in that token. -/
theorem LineEndsIn.line_start (lineEnds : LineEndsIn file closer low high)
    (measured : file.Measured) {first before : Token}
    (starts : nextLineStart? file closer = some start) (begins : file.tokens[low]? = some first)
    (here : file.tokens[start]? = some before) :
    before.line = first.line + max 1 (file.breaksOf low) := by
  obtain ⟨stop, above, below, breaks, quiet, starts', _⟩ := lineEnds.exists_stop
  obtain rfl := Option.some.inj (starts.symm.trans starts')
  have front : ∑ position ∈ Finset.Ico low stop, file.breaksOf position = 0 :=
    Finset.sum_eq_zero fun position member => quiet position
      (lineEnds.behind.trans (Finset.mem_Ico.mp member).1) (Finset.mem_Ico.mp member).2
  have lines := measured.counted.line_add (Nat.le_succ_of_le above) begins here
  rw [Finset.sum_Ico_succ_top above, front] at lines
  rcases Nat.eq_or_lt_of_le above with here | inside
  · subst here
    omega
  · have none := quiet low lineEnds.behind inside
    have one := measured.breaksOf_blank (lineEnds.gap.blank stop inside below)
    split at one <;> omega

/-- The next content is the end of the gap in which the line ends. -/
theorem nextContent?_eq_some_iff (solid : file.solidAt closer = true) :
    nextContent? file closer = some high ↔ ∃ low, LineEndsIn file closer low high := by
  constructor
  · intro content
    obtain ⟨start, starts, search⟩ := Option.bind_eq_some_iff.mp content
    obtain ⟨_, stop, lineEnd, rfl⟩ := nextLineStart?_eq_some_iff.mp starts
    obtain ⟨behind, breaks, quiet⟩ := findLineEnd_eq_some_iff_breaksOf.mp lineEnd
    obtain ⟨order, blank, last, ends, lastSolid⟩ := blank_of_find search
    obtain ⟨low, gap, above⟩ := exists_adjoin_before solid
      (solidAt_iff.mpr ⟨last, ends, lastSolid⟩) (show closer < high by omega)
    have before : low ≤ stop := by
      by_contra after
      obtain ⟨solidLow, _⟩ := adjoin_iff.mp gap
      obtain ⟨first, begins, firstSolid⟩ := solidAt_iff.mp solidLow
      have white := blank low (by omega) gap.order first begins
      simp [firstSolid] at white
    refine ⟨low, gap, above, ?_, ?_⟩
    · exact Finset.sum_eq_zero fun position member => quiet position (Finset.mem_Ico.mp member).1
        ((Finset.mem_Ico.mp member).2.trans_le before)
    · exact Finset.sum_pos' (fun _ _ => Nat.zero_le _)
        ⟨stop, Finset.mem_Ico.mpr ⟨before, order⟩, breaks⟩
  · rintro ⟨low, lineEnds⟩
    obtain ⟨_, _, _, _, _, _, content⟩ := lineEnds.exists_stop
    exact content

theorem Trails.exists_start (trails : Trails file closer low high) (laidOut : file.LaidOut) :
    ∃ start, low < start ∧ nextLineStart? file closer = some start ∧
      nextContent? file closer = some high ∧
      ∑ position ∈ Finset.Ico low high, file.breaksOf position =
        ∑ position ∈ Finset.Ico start high, file.breaksOf position + 1 := by
  obtain ⟨stop, above, below, breaks, quiet, starts, content⟩ := trails.exists_stop
  refine ⟨stop + 1, Nat.lt_succ_of_le above, starts, content, ?_⟩
  have one := laidOut.breaksOf_le_one stop
  have front : ∑ position ∈ Finset.Ico low stop, file.breaksOf position = 0 :=
    Finset.sum_eq_zero fun position member => quiet position
      (trails.behind.trans (Finset.mem_Ico.mp member).1) (Finset.mem_Ico.mp member).2
  rw [← Finset.sum_Ico_consecutive file.breaksOf above (Nat.le_of_lt below), front,
    Finset.sum_eq_sum_Ico_succ_bot below]
  omega

theorem exists_trails (solid : file.solidAt closer = true)
    (content : nextContent? file closer = some high) (inner : isLast file closer = false) :
    ∃ low, Trails file closer low high := by
  obtain ⟨low, lineEnds⟩ := (nextContent?_eq_some_iff solid).mp content
  refine ⟨low, lineEnds, ?_⟩
  intro next found brace
  simp [isLast, content, found, brace] at inner

/-- What a fix does is the repair of the gap. -/
theorem Trails.repair_eq (trails : Trails file closer low high) (laidOut : file.LaidOut)
    (wanted anchor : Nat) :
    gapRepair ((∑ position ∈ Finset.Ico low high, file.breaksOf position : Nat) - 1) wanted anchor
      (file.lineBreaks (closer + 1) high) = file.repairAt wanted anchor low high := by
  have order : low + 1 ≤ high := trails.gap.order
  have size := laidOut.measured.length_lineBreaks order trails.gap.blank
  have total := Finset.sum_eq_sum_Ico_succ_bot trails.gap.order file.breaksOf
  have one := laidOut.breaksOf_le_one low
  have behind := trails.behind
  rw [← lineBreaks_append file (show closer + 1 ≤ low + 1 by omega) trails.gap.order,
    gapRepair_append (by omega), repairAt]

theorem editAnchor_eq (content : nextContent? file closer = some high) :
    editAnchor file closer = max (high - 2) closer := by
  rw [editAnchor, content, Option.some_or]

/-- What a report of the rule proposes is the repair of the gap, in which the blank lines are wrong. -/
theorem Trails.fix_of_report (trails : Trails file closer low high) (laidOut : file.LaidOut)
    (small : file.LinesBelow Word.half) (count : between < Word.half)
    (starts : nextLineStart? file closer = some start)
    (content : nextContent? file closer = some high) {before after : Token}
    (begins : file.tokens[start]? = some before) (ends : file.tokens[high]? = some after) :
    (after.lineDelta before ≠ Word.signed between ↔
      ∑ position ∈ Finset.Ico low high, file.breaksOf position ≠ between + 1) ∧
    gapRepair (after.lineDelta before) (Word.signed between) (editAnchor file closer)
      (file.lineBreaks (closer + 1) high) =
        file.repairAt between (max (high - 2) closer) low high := by
  obtain ⟨start', _, starts', _, total⟩ := trails.exists_start laidOut
  obtain rfl := Option.some.inj (starts.symm.trans starts')
  have search : file.findNext [.whitespace] start none true = some high := by
    simpa only [nextContent?, starts, Option.bind_eq_bind, Option.bind_some] using content
  obtain ⟨order, _⟩ := blank_of_find search
  have lines := laidOut.measured.counted.line_add order begins ends
  have found : after.lineDelta before =
      (∑ position ∈ Finset.Ico low high, file.breaksOf position : Nat) - 1 := by
    rw [small.lineDelta_eq begins ends]
    omega
  rw [found, Word.signed_of_lt count, editAnchor_eq content, trails.repair_eq laidOut]
  exact ⟨by omega, rfl⟩

/-- The rule reports nothing but gaps behind methods without the blank lines that are wanted. -/
theorem gap_of_check (laidOut : file.LaidOut) (small : file.LinesBelow Word.half)
    (count : between < Word.half) (closed : ClosersSolid file)
    (found : file.tokens[position]? = some token)
    (kind : RuleId.methodSpacing.kinds.contains token.kind = true)
    (reported : violation ∈ check between file position level) :
    declaresInterface file = false ∧ ∃ closer ∈ ends file, ∃ low high,
      Trails file closer low high ∧
      ∑ position ∈ Finset.Ico low high, file.breaksOf position ≠ between + 1 ∧
      violation.fix = some (file.repairAt between (max (high - 2) closer) low high) := by
  obtain ⟨plain, closer, start, high, before, after, closes, starts, content, begins, last, inner,
    wrong, report⟩ := mem_check_iff.mp reported
  have ended := mem_ends.mpr ⟨position, token, found, kind, closes⟩
  obtain ⟨low, trails⟩ := exists_trails (closed.ends ended) content inner
  obtain ⟨off, repair⟩ := trails.fix_of_report laidOut small count starts content begins last
  have wrong := off.mp wrong
  refine ⟨plain, closer, ended, low, high, trails, wrong, ?_⟩
  rw [repair] at report
  rw [Violation.fix_atToken? report, if_neg]
  rw [List.isEmpty_iff]
  exact repairAt_ne_nil laidOut trails.gap wrong

/-- The rule reports every gap behind a method without the blank lines that are wanted. -/
theorem check_of_gap (laidOut : file.LaidOut) (small : file.LinesBelow Word.half)
    (count : between < Word.half) (plain : declaresInterface file = false)
    (closes : closer? file position = some closer) (trails : Trails file closer low high)
    (wrong : ∑ position ∈ Finset.Ico low high, file.breaksOf position ≠ between + 1)
    (level : Level) : ∃ violation ∈ check between file position level,
      violation.fix = some (file.repairAt between (max (high - 2) closer) low high) := by
  obtain ⟨start, _, starts, content, _⟩ := trails.exists_start laidOut
  obtain ⟨inside, _⟩ := nextLineStart?_eq_some_iff.mp starts
  have begins := List.getElem?_eq_getElem inside
  obtain ⟨_, solidHigh, _⟩ := adjoin_iff.mp trails.gap
  obtain ⟨last, ends, _⟩ := solidAt_iff.mp solidHigh
  obtain ⟨off, repair⟩ := trails.fix_of_report laidOut small count starts content begins ends
  have inner : isLast file closer = false := by
    simpa [isLast, content, ends] using trails.inner last ends
  obtain ⟨token, found⟩ : ∃ token, file.tokens[position]? = some token := by
    cases found : file.tokens[position]? with
    | none => simp [closer?, found] at closes
    | some token => exact ⟨token, rfl⟩
  obtain ⟨violation, report⟩ := Violation.exists_atToken? found RuleId.methodSpacing.name code level
    (message (Word.signed between) (last.lineDelta file.tokens[start]))
    (gapRepair (last.lineDelta file.tokens[start]) (Word.signed between) (editAnchor file closer)
      (file.lineBreaks (closer + 1) high))
  refine ⟨violation, mem_check_iff.mpr ⟨plain, closer, start, high, _, last, closes, starts, content,
    begins, ends, inner, off.mpr wrong, report⟩, ?_⟩
  rw [repair] at report
  rw [Violation.fix_atToken? report, if_neg]
  rw [List.isEmpty_iff]
  exact repairAt_ne_nil laidOut trails.gap wrong

theorem solid_of_kind {token : Token} {kind : TokenKind} (is : token.kind = kind)
    (solid : kind ≠ .whitespace) : token.isWhitespace = false := by
  rw [Token.isWhitespace, is]
  exact decide_eq_false solid

theorem declaresInterface_iff :
    declaresInterface file = true ↔ ∃ token ∈ file.tokens, token.kind = .interfaceDecl := by
  simp only [declaresInterface, findNext, List.drop_zero, Option.isSome_map, List.findIdx?_isSome,
    List.any_eq_true, isWanted_kind]

theorem declaresInterface_revise (file : TokenFile) (corrections : List Correction) :
    declaresInterface (file.revise corrections) = declaresInterface file := by
  rw [Bool.eq_iff_iff, declaresInterface_iff, declaresInterface_iff]
  constructor
  · rintro ⟨token', member, kind⟩
    obtain ⟨here', found⟩ := List.mem_iff_getElem?.mp member
    obtain ⟨token, here, original, _, _, same, _⟩ :=
      exists_of_getElem?_revise found (solid_of_kind kind (by decide))
    exact ⟨token, List.mem_of_getElem? original, same.symm.trans kind⟩
  · rintro ⟨token, member, kind⟩
    obtain ⟨here, found⟩ := List.mem_iff_getElem?.mp member
    exact ⟨_, List.mem_of_getElem? (getElem?_revise corrections found
      (solid_of_kind kind (by decide))), kind⟩

/-- Where methods close moves along with the tokens. -/
theorem exists_of_ends_revise {closer' : Nat}
    (ended : closer' ∈ ends (file.revise corrections)) :
    ∃ closer ∈ ends file, closer' = file.moved corrections closer := by
  obtain ⟨position', token', found, kind, closes⟩ := mem_ends.mp ended
  have method := kinds_contains_iff.mp kind
  obtain ⟨token, position, original, solid, rfl, same, _, scope⟩ :=
    exists_of_getElem?_revise found (solid_of_kind method (by decide))
  rw [same] at kind
  rw [closer?_eq found, scope] at closes
  cases brace : token.scopeCloser with
  | some closer =>
    rw [brace, Option.map_some, Option.some_or, Option.some.injEq] at closes
    refine ⟨closer, mem_ends.mpr ⟨position, token, original, kind, ?_⟩, closes.symm⟩
    rw [closer?_eq original, brace, Option.some_or]
  | none =>
    rw [brace, Option.map_none, Option.none_or] at closes
    obtain ⟨behind, _, ⟨semicolon', here', wanted⟩, nearest⟩ := findNext_eq_some_iff.mp closes
    have semi := isWanted_kind.mp wanted
    obtain ⟨semicolon, closer, here, solidHere, rfl, sameKind, _⟩ :=
      exists_of_getElem?_revise here' (solid_of_kind semi (by decide))
    have solidPosition := solidAt_iff.mpr ⟨token, original, solid⟩
    have solidCloser := solidAt_iff.mpr ⟨semicolon, here, solidHere⟩
    refine ⟨closer, mem_ends.mpr ⟨position, token, original, kind, ?_⟩, rfl⟩
    rw [closer?_eq original, brace, Option.none_or, findNext_eq_some_iff]
    refine ⟨?_, by simp, ⟨semicolon, here, isWanted_kind.mpr (sameKind.symm.trans semi)⟩, ?_⟩
    · exact Nat.le_of_not_lt fun before =>
        Nat.not_lt_of_le behind (moved_lt solidCloser solidPosition before)
    · intro earlier above below other there
      by_contra hit
      have otherSemi := isWanted_kind.mp (Bool.eq_true_of_not_eq_false hit)
      have otherSolid := solid_of_kind otherSemi (by decide)
      have solidOther := solidAt_iff.mpr ⟨other, there, otherSolid⟩
      have miss := nearest (file.moved corrections earlier)
        (Nat.le_of_not_lt fun before =>
          Nat.not_lt_of_le above ((moved_lt_iff solidOther solidPosition).mp before))
        (moved_lt solidOther solidCloser below) _ (getElem?_revise corrections there otherSolid)
      exact Bool.false_ne_true (miss.symm.trans (isWanted_kind.mpr otherSemi))

theorem ClosersSolid.revise (closed : ClosersSolid file) (corrections : List Correction) :
    ClosersSolid (file.revise corrections) := by
  intro token' member kind
  obtain ⟨position', found⟩ := List.mem_iff_getElem?.mp member
  obtain ⟨token, position, original, _, _, same, _, scope⟩ :=
    exists_of_getElem?_revise found (solid_of_kind kind (by decide))
  have solid := closed token (List.mem_of_getElem? original) (same.symm.trans kind)
  rw [scope]
  cases brace : token.scopeCloser with
  | none => rfl
  | some closer =>
    rw [brace, Option.all_some] at solid
    exact (abreast_moved solid corrections).solid'

/-- Corrections that blank only spare line breaks do not bring a gap behind a method that it was not in,
unless they put the first line ending into it. -/
theorem Trails.of_revise (laidOut : file.LaidOut)
    (spared : ∀ position, .delete position ∈ corrections → file.Spare position)
    (solid : file.solidAt closer = true) (gap : file.Adjoin low high)
    (broken : 0 < ∑ position ∈ Finset.Ico low high, file.breaksOf position)
    (trails : Trails (file.revise corrections) (file.moved corrections closer)
      (file.moved corrections low) (file.moved corrections high)) : Trails file closer low high := by
  obtain ⟨solidLow, solidHigh, _⟩ := adjoin_iff.mp gap
  have behind : closer ≤ low := Nat.le_of_not_lt fun before =>
    Nat.not_lt_of_le trails.behind (moved_lt solidLow solid before)
  refine ⟨⟨gap, behind, ?_, broken⟩, ?_⟩
  · exact laidOut.unbroken_of_revise spared solid solidLow behind trails.unbroken
  · intro next found
    obtain ⟨last, ends, lastSolid⟩ := solidAt_iff.mp solidHigh
    obtain rfl := Option.some.inj (ends.symm.trans found)
    have inner := trails.inner _ (getElem?_revise corrections ends lastSolid)
    exact inner

end BlankLines.MethodSpacing
