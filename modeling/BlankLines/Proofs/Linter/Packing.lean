import BlankLines.Proofs.Rule.MethodSpacing
import BlankLines.Proofs.TokenFile.Outline
import BlankLines.Proofs.TokenFile.Reload

/-!
Reports and the packing of white space. Each rule measures lines between solid tokens and counts the line
breaks there, so two files with one outline are reported alike, but for the positions in the reports.
-/
namespace BlankLines

open TokenFile

/-- The correction without the position at which it is made. -/
def Correction.unplaced : Correction → Correction
  | delete _ => delete 0
  | insertNewline _ => insertNewline 0

/-- The violation without the positions of its token and of its corrections. -/
def Violation.unplaced (violation : Violation) : Violation :=
  { violation with
    position := 0
    fix := violation.fix.map (·.map Correction.unplaced) }

variable {file file' : TokenFile} {level : Level} {violation : Violation}
  {position position' closer closer' low high : Nat} {token : Token}

/-- Lists of one item at most are alike if each item of the one is like one of the other. -/
theorem map_eq_map_of_mem {α β : Type} {view : α → β} {items items' : List α}
    (few : items.length ≤ 1) (few' : items'.length ≤ 1)
    (there : ∀ x ∈ items, ∃ y ∈ items', view y = view x)
    (back : ∀ y ∈ items', ∃ x ∈ items, view x = view y) : items.map view = items'.map view := by
  cases items with
  | nil =>
    cases items' with
    | nil => rfl
    | cons y rest' =>
      obtain ⟨x, absent, _⟩ := back y List.mem_cons_self
      exact absurd absent List.not_mem_nil
  | cons x rest =>
    obtain rfl : rest = [] := by simpa using few
    obtain ⟨y, member, same⟩ := there x List.mem_cons_self
    cases items' with
    | nil => exact absurd member List.not_mem_nil
    | cons y' rest' =>
      obtain rfl : rest' = [] := by simpa using few'
      obtain rfl := List.mem_singleton.mp member
      rw [List.map_singleton, List.map_singleton, same]

theorem flatMap_eq_of_forall₂ {α β γ : Type} {f : α → List γ} {g : β → List γ} {items : List α}
    {items' : List β} (each : List.Forall₂ (fun x y => f x = g y) items items') :
    items.flatMap f = items'.flatMap g := by
  induction each with
  | nil => rfl
  | cons head _ ih => rw [List.flatMap_cons, List.flatMap_cons, head, ih]

theorem flatMap_filter_of_nil {α β : Type} {keep : α → Bool} {f : α → List β} {items : List α}
    (nothing : ∀ x ∈ items, keep x = false → f x = []) :
    (items.filter keep).flatMap f = items.flatMap f := by
  induction items with
  | nil => rfl
  | cons x rest ih =>
    have later := ih fun y member => nothing y (List.mem_cons_of_mem x member)
    cases kept : keep x with
    | true => rw [List.filter_cons_of_pos kept, List.flatMap_cons, List.flatMap_cons, later]
    | false =>
      rw [List.filter_cons_of_neg (Bool.eq_false_iff.mp kept), List.flatMap_cons,
        nothing x List.mem_cons_self kept, List.nil_append, later]

/-- A repair has as many corrections of the same type wherever it is made. -/
theorem unplaced_gapRepair (found wanted : Int) (anchor anchor' : Nat) {removable removable' : List Nat}
    (size : removable'.length = removable.length) :
    (gapRepair found wanted anchor' removable').map Correction.unplaced =
      (gapRepair found wanted anchor removable).map Correction.unplaced := by
  have deletes (positions : List Nat) : (positions.map Correction.delete).map Correction.unplaced =
      List.replicate positions.length (.delete 0) := by
    rw [List.map_map]
    exact List.map_const'
  unfold gapRepair
  split
  · rw [deletes, deletes, List.length_drop, List.length_drop, size]
  · rw [List.map_replicate, List.map_replicate]
    rfl

/-- Reports at tokens abreast, with repairs of the same type, are alike. -/
theorem TokenFile.SameOutline.exists_atToken? (same : SameOutline file file')
    (abreast : Abreast file file' position position') {rule code message : String}
    {repair repair' : Changeset}
    (alike : repair'.map Correction.unplaced = repair.map Correction.unplaced)
    (reported : Violation.atToken? file position rule code level message repair = some violation) :
    ∃ violation', Violation.atToken? file' position' rule code level message repair' =
      some violation' ∧ violation'.unplaced = violation.unplaced := by
  obtain ⟨token, found, rfl⟩ := Violation.atToken?_eq_some_iff.mp reported
  obtain ⟨token', found', twins⟩ := same.exists_twin abreast found
  refine ⟨_, Violation.atToken?_eq_some_iff.mpr ⟨token', found', rfl⟩, ?_⟩
  have empty := congrArg List.isEmpty alike
  rw [List.isEmpty_map, List.isEmpty_map] at empty
  cases none : repair.isEmpty <;> simp [Violation.unplaced, twins.line, empty, none, alike]

/-- The rule reports once at most. -/
theorem MethodSpacing.length_check_le_one (between : Nat) (file : TokenFile) (position : Nat)
    (level : Level) : (check between file position level).length ≤ 1 := by
  unfold check
  split
  · exact Nat.zero_le 1
  · split
    · exact Nat.zero_le 1
    · dsimp only
      split
      · exact Nat.zero_le 1
      · exact Option.length_toList_le

section Checks

variable (same : SameOutline file file') (measured : file.Measured) (measured' : file'.Measured)

include same measured measured'

/-- Between tokens abreast the lines and the line breaks are the same. -/
theorem TokenFile.SameOutline.exists_measured {high' low' : Nat} {first last : Token}
    (front : Abreast file file' low low') (back : Abreast file file' high high') (order : low ≤ high)
    (begins : file.tokens[low]? = some first) (ends : file.tokens[high]? = some last) :
    ∃ first' last', file'.tokens[low']? = some first' ∧ file'.tokens[high']? = some last' ∧
      last'.kind = last.kind ∧ last'.lineDelta first' = last.lineDelta first ∧
      (file'.lineBreaks (low' + 1) high').length = (file.lineBreaks (low + 1) high).length := by
  obtain ⟨first', begins', firsts⟩ := same.exists_twin front begins
  obtain ⟨last', ends', lasts⟩ := same.exists_twin back ends
  refine ⟨first', last', begins', ends', lasts.kind, ?_, ?_⟩
  · rw [Token.lineDelta, Token.lineDelta, firsts.line, lasts.line]
  · rw [lineBreaks_succ front.solid, lineBreaks_succ front.solid']
    exact same.length_lineBreaks measured measured' front back order

namespace BraceSpacing

variable {wanted opener opener' : Nat} {declaration : String}

theorem exists_checkOpening (abreast : Abreast file file' opener opener')
    (reported : checkOpening wanted file declaration opener level = some violation) :
    ∃ violation', checkOpening wanted file' declaration opener' level = some violation' ∧
      violation'.unplaced = violation.unplaced := by
  obtain ⟨brace, next, follower, begins, search, ends, held, wrong, report⟩ :=
    checkOpening_eq_some_iff.mp reported
  have gap := (findNext_eq_some_iff_adjoin abreast.solid).mp search
  obtain ⟨next', back⟩ := same.exists_abreast (adjoin_iff.mp gap).2.1
  have search' := (findNext_eq_some_iff_adjoin abreast.solid').mpr (abreast.adjoin back gap)
  obtain ⟨brace', follower', begins', ends', kind, delta, size⟩ :=
    same.exists_measured measured measured' abreast back gap.order.le begins ends
  obtain ⟨violation', report', alike⟩ :=
    same.exists_atToken? abreast (unplaced_gapRepair _ _ opener opener' size) report
  rw [← kind] at held
  rw [← delta] at wrong report'
  exact ⟨violation', checkOpening_eq_some_iff.mpr
    ⟨brace', next', follower', begins', search', ends', held, wrong, report'⟩, alike⟩

theorem exists_checkClosing (abreast : Abreast file file' closer closer')
    (reported : checkClosing wanted file declaration closer level = some violation) :
    ∃ violation', checkClosing wanted file' declaration closer' level = some violation' ∧
      violation'.unplaced = violation.unplaced := by
  obtain ⟨brace, previous, leader, ends, inside, search, begins, wrong, report⟩ :=
    checkClosing_eq_some_iff.mp reported
  have gap := (findPrevious_eq_some_iff_adjoin abreast.solid inside).mp search
  obtain ⟨previous', front⟩ := same.exists_abreast (adjoin_iff.mp gap).1
  have gap' := front.adjoin abreast gap
  have inside' : closer' ≠ 0 := Nat.ne_zero_of_lt gap'.order
  have search' := (findPrevious_eq_some_iff_adjoin abreast.solid' inside').mpr gap'
  obtain ⟨leader', brace', begins', ends', _, delta, size⟩ :=
    same.exists_measured measured measured' front abreast gap.order.le begins ends
  obtain ⟨violation', report', alike⟩ :=
    same.exists_atToken? abreast (unplaced_gapRepair _ _ previous previous' size) report
  rw [← delta] at wrong report'
  exact ⟨violation', checkClosing_eq_some_iff.mpr
    ⟨brace', previous', leader', ends', inside', search', begins', wrong, report'⟩, alike⟩

theorem map_unplaced_check (abreast : Abreast file file' position position')
    (afterOpening beforeClosing : Nat) (level : Level) :
    (check afterOpening beforeClosing file position level).map Violation.unplaced =
      (check afterOpening beforeClosing file' position' level).map Violation.unplaced := by
  obtain ⟨⟨kind, line, content, opens, closes⟩, found, _⟩ := solidAt_iff.mp abreast.solid
  obtain ⟨⟨kind', line', content', opens', closes'⟩, found', twins⟩ := same.exists_twin abreast found
  obtain ⟨_, _, rfl, opener, closer⟩ := twins
  cases opener with
  | none => simp [check, found, found']
  | some openers =>
    cases closer with
    | none => simp [check, found, found']
    | some closers =>
      simp only [check, found, found', List.map_append]
      congr 1
      · apply map_eq_map_of_mem Option.length_toList_le Option.length_toList_le
        all_goals simp only [Option.mem_toList]
        · exact fun _ => exists_checkOpening same measured measured' openers
        · exact fun _ => exists_checkOpening same.symm measured' measured openers.symm
      · apply map_eq_map_of_mem Option.length_toList_le Option.length_toList_le
        all_goals simp only [Option.mem_toList]
        · exact fun _ => exists_checkClosing same measured measured' closers
        · exact fun _ => exists_checkClosing same.symm measured' measured closers.symm

end BraceSpacing

namespace MethodSpacing

variable {between : Nat}

/-- The line that a closing token stands on ends in a gap abreast. -/
theorem LineEndsIn.twin (lineEnds : LineEndsIn file closer low high)
    (abreast : Abreast file file' closer closer') : ∃ low' high', Abreast file file' low low' ∧
      Abreast file file' high high' ∧ LineEndsIn file' closer' low' high' := by
  obtain ⟨gap, behind, unbroken, broken⟩ := lineEnds
  obtain ⟨solidLow, solidHigh, _⟩ := adjoin_iff.mp gap
  obtain ⟨low', front⟩ := same.exists_abreast solidLow
  obtain ⟨high', back⟩ := same.exists_abreast solidHigh
  have gap' := front.adjoin back gap
  have behind' : closer' ≤ low' := by
    have := front.lt_iff abreast
    omega
  obtain ⟨brace, here, _⟩ := solidAt_iff.mp abreast.solid
  obtain ⟨first, begins, _⟩ := solidAt_iff.mp solidLow
  obtain ⟨last, ends, _⟩ := solidAt_iff.mp solidHigh
  obtain ⟨brace', here', braces⟩ := same.exists_twin abreast here
  obtain ⟨first', begins', firsts⟩ := same.exists_twin front begins
  obtain ⟨last', ends', lasts⟩ := same.exists_twin back ends
  have lines := measured.counted.line_add behind here begins
  have lines' := measured'.counted.line_add behind' here' begins'
  have across := measured.counted.line_add gap.order.le begins ends
  have across' := measured'.counted.line_add gap'.order.le begins' ends'
  have := braces.line
  have := firsts.line
  have := lasts.line
  exact ⟨low', high', front, back, gap', behind', by omega, by omega⟩

omit measured measured' in
theorem declaresInterface_of_outline (declares : declaresInterface file = true) :
    declaresInterface file' = true := by
  obtain ⟨token, member, kind⟩ := declaresInterface_iff.mp declares
  obtain ⟨position, found⟩ := List.mem_iff_getElem?.mp member
  obtain ⟨position', abreast⟩ := same.exists_abreast
    (solidAt_iff.mpr ⟨token, found, solid_of_kind kind (by decide)⟩)
  obtain ⟨token', found', twins⟩ := same.exists_twin abreast found
  exact declaresInterface_iff.mpr ⟨token', List.mem_of_getElem? found', twins.kind.trans kind⟩

omit measured measured' in
theorem exists_closer? (abreast : Abreast file file' position position')
    (closing : closer? file position = some closer) :
    ∃ closer', Abreast file file' closer closer' ∧ closer? file' position' = some closer' := by
  obtain ⟨⟨kind, line, content, opens, closes⟩, found, _⟩ := solidAt_iff.mp abreast.solid
  obtain ⟨⟨kind', line', content', opens', closes'⟩, found', twins⟩ := same.exists_twin abreast found
  obtain ⟨_, _, _, _, scopes⟩ := twins
  rw [closer?_eq found] at closing
  rw [closer?_eq found']
  cases scopes with
  | none => exact same.exists_findNext (by decide) abreast closing
  | some closers =>
    obtain rfl := Option.some.inj closing
    exact ⟨_, closers, rfl⟩

theorem exists_check (abreast : Abreast file file' position position')
    (reported : violation ∈ check between file position level) :
    ∃ violation' ∈ check between file' position' level, violation'.unplaced = violation.unplaced := by
  obtain ⟨plain, closer, start, high, before, after, closes, starts, content, begins, ends, inner,
    wrong, report⟩ := mem_check_iff.mp reported
  obtain ⟨closer', closers, closes'⟩ := exists_closer? same abreast closes
  obtain ⟨low, lineEnds⟩ := (nextContent?_eq_some_iff closers.solid).mp content
  obtain ⟨low', high', front, back, lineEnds'⟩ := lineEnds.twin same measured measured' closers
  obtain ⟨stop, _, _, _, _, starts', content'⟩ := lineEnds'.exists_stop
  obtain ⟨before', begins'⟩ : ∃ before', file'.tokens[stop + 1]? = some before' :=
    ⟨_, List.getElem?_eq_getElem (nextLineStart?_eq_some_iff.mp starts').1⟩
  obtain ⟨first, leads, _⟩ := solidAt_iff.mp front.solid
  obtain ⟨first', leads', firsts⟩ := same.exists_twin front leads
  obtain ⟨after', ends', lasts⟩ := same.exists_twin back ends
  have line := lineEnds.line_start measured starts leads begins
  have line' := lineEnds'.line_start measured' starts' leads' begins'
  rw [firsts.line, same.breaksOf_eq front, ← line] at line'
  have delta : after'.lineDelta before' = after.lineDelta before := by
    rw [Token.lineDelta, Token.lineDelta, lasts.line, line']
  have order := lineEnds.behind.trans lineEnds.gap.order.le
  have size := same.length_lineBreaks measured measured' closers back order
  rw [← lineBreaks_succ closers.solid, ← lineBreaks_succ closers.solid'] at size
  obtain ⟨violation', report', alike⟩ := same.exists_atToken? abreast
    (unplaced_gapRepair _ _ (editAnchor file closer) (editAnchor file' closer') size) report
  refine ⟨violation', mem_check_iff.mpr ⟨?_, closer', stop + 1, high', before', after', closes', starts',
    content', begins', ends', ?_, ?_, ?_⟩, alike⟩
  · rw [Bool.eq_false_iff] at plain ⊢
    exact mt (declaresInterface_of_outline same.symm) plain
  · rw [isLast, content] at inner
    rw [isLast, content']
    simpa [ends, ends', lasts.kind] using inner
  · rw [delta]
    exact wrong
  · rw [delta]
    exact report'

theorem map_unplaced_check (abreast : Abreast file file' position position')
    (between : Nat) (level : Level) :
    (check between file position level).map Violation.unplaced =
      (check between file' position' level).map Violation.unplaced := by
  apply map_eq_map_of_mem (length_check_le_one ..) (length_check_le_one ..)
  · exact fun _ => exists_check same measured measured' abreast
  · exact fun _ => exists_check same.symm measured' measured abreast.symm

end MethodSpacing

theorem Rule.map_unplaced_checkAt (abreast : Abreast file file' position position') {token' : Token}
    (kind : token'.kind = token.kind) (rule : Rule) (level : Level) :
    (rule.checkAt file position token level).map Violation.unplaced =
      (rule.checkAt file' position' token' level).map Violation.unplaced := by
  rw [checkAt, checkAt, kind]
  split
  · cases rule with
    | braceSpacing => exact BraceSpacing.map_unplaced_check same measured measured' abreast _ _ level
    | methodSpacing => exact MethodSpacing.map_unplaced_check same measured measured' abreast _ level
  · rfl

end Checks

namespace Linter

/-- No rule is run at white space. -/
theorem lint_eq_solids (linter : Linter) (file : TokenFile) :
    linter.lint file = file.solids.flatMap fun (token, position) =>
      linter.rules.flatMap fun (rule, level) => rule.checkAt file position token level := by
  symm
  apply flatMap_filter_of_nil
  rintro ⟨token, position⟩ _ white
  rw [List.flatMap_eq_nil_iff]
  rintro ⟨rule, level⟩ _
  have kind : token.kind = .whitespace := by simpa [Token.isWhitespace] using white
  change rule.checkAt file position token level = []
  rw [Rule.checkAt, kind, if_neg]
  cases rule <;> simp [Rule.id, RuleId.kinds]

theorem map_unplaced_lint (same : SameOutline file file') (measured : file.Measured)
    (measured' : file'.Measured) (linter : Linter) :
    (linter.lint file).map Violation.unplaced = (linter.lint file').map Violation.unplaced := by
  have size : file'.solids.length = file.solids.length := by
    simpa [outline] using congrArg List.length same.outline
  simp only [lint_eq_solids, List.map_flatMap]
  apply flatMap_eq_of_forall₂
  apply forall₂_of_getElem? size
  rintro k ⟨token, position⟩ found
  obtain ⟨token', position', found', twins⟩ := same.exists_twin_solids found
  have abreast : Abreast file file' position position' := .of_solids found found'
  refine ⟨_, found', ?_⟩
  congr 1
  apply funext
  rintro ⟨rule, level⟩
  exact rule.map_unplaced_checkAt same measured measured' abreast twins.kind level

/-- Two dumps of the same solid tokens on the same lines, which follow the text in both, are reported alike
but for positions, however their white space is cut into tokens. It need not even be the same text: how
many line endings are in a gap follows from the lines. -/
theorem lint_repacked (linter : Linter) {text text' : String} {loaded loaded' : TokenFile}
    (parsed : parseDump text = .ok file) (parsed' : parseDump text' = .ok file')
    (opened : ofDump text = .ok loaded) (opened' : ofDump text' = .ok loaded')
    (same : SameOutline file file') (counted : file.Counted) (counted' : file'.Counted) :
    (linter.lint loaded).map Violation.unplaced = (linter.lint loaded').map Violation.unplaced := by
  obtain ⟨_, found, valid, rfl⟩ := exists_of_ofDump opened
  obtain ⟨_, found', valid', rfl⟩ := exists_of_ofDump opened'
  obtain rfl := Except.ok.inj (parsed.symm.trans found)
  obtain rfl := Except.ok.inj (parsed'.symm.trans found')
  exact map_unplaced_lint same.splitLineBreaks
    (counted.measured (validate_eq_ok_iff.mp valid).eol_ne)
    (counted'.measured (validate_eq_ok_iff.mp valid').eol_ne) linter

/-- A class body whose opening line ends in one token of white space. -/
def packedBody : TokenFile where
  tokens := [
    { kind := .classDecl, line := 1, content := "class", scopeOpener := some 1, scopeCloser := some 8 },
    { kind := .openBrace, line := 1, content := "\x7b" },
    { kind := .whitespace, line := 1, content := "  \n\n\n" },
    { kind := .functionDecl, line := 4, content := "function", scopeOpener := some 4,
      scopeCloser := some 5 },
    { kind := .openBrace, line := 4, content := "\x7b" },
    { kind := .closeBrace, line := 4, content := "\x7d" },
    { kind := .whitespace, line := 4, content := "\n" },
    { kind := .other, line := 5, content := "x" },
    { kind := .closeBrace, line := 5, content := "\x7d" }]

/-- The same body with that white space in three tokens. -/
def spreadBody : TokenFile where
  tokens := [
    { kind := .classDecl, line := 1, content := "class", scopeOpener := some 1, scopeCloser := some 10 },
    { kind := .openBrace, line := 1, content := "\x7b" },
    { kind := .whitespace, line := 1, content := " " },
    { kind := .whitespace, line := 1, content := " \n\n" },
    { kind := .whitespace, line := 3, content := "\n" },
    { kind := .functionDecl, line := 4, content := "function", scopeOpener := some 6,
      scopeCloser := some 7 },
    { kind := .openBrace, line := 4, content := "\x7b" },
    { kind := .closeBrace, line := 4, content := "\x7d" },
    { kind := .whitespace, line := 4, content := "\n" },
    { kind := .other, line := 5, content := "x" },
    { kind := .closeBrace, line := 5, content := "\x7d" }]

/-- Both bodies are reported three times, at other positions but alike. -/
theorem lint_repacked_spreadBody :
    let linter : Linter := ⟨[(.braceSpacing 1 0, .error), (.methodSpacing 1, .warning)]⟩
    let loaded := packedBody.splitLineBreaks
    let loaded' := spreadBody.splitLineBreaks
    ofDump packedBody.dump = .ok loaded ∧ ofDump spreadBody.dump = .ok loaded' ∧
      SameOutline packedBody spreadBody ∧ packedBody.Counted ∧ spreadBody.Counted ∧
      (linter.lint loaded).length = 3 ∧ linter.lint loaded ≠ linter.lint loaded' ∧
      (linter.lint loaded).map Violation.unplaced = (linter.lint loaded').map Violation.unplaced := by
  intro linter loaded loaded'
  have parsed : parseDump packedBody.dump = .ok packedBody := parseDump_dump (by decide +kernel)
  have parsed' : parseDump spreadBody.dump = .ok spreadBody := parseDump_dump (by decide +kernel)
  have opened : ofDump packedBody.dump = .ok loaded := by
    rw [ofDump, parsed]
    rfl
  have opened' : ofDump spreadBody.dump = .ok loaded' := by
    rw [ofDump, parsed']
    rfl
  have same : SameOutline packedBody spreadBody := by decide +kernel
  have counted : packedBody.Counted := by decide +kernel
  have counted' : spreadBody.Counted := by decide +kernel
  exact ⟨opened, opened', same, counted, counted', by decide +kernel, by decide +kernel,
    lint_repacked linter parsed parsed' opened opened' same counted counted'⟩

end Linter

end BlankLines
