import BlankLines.Proofs.Rule.BraceSpacing
import BlankLines.Proofs.Rule.MethodSpacing

/-!
All rules of a linter by gaps. Each asks for a number of blank lines in some gaps between neighbouring
solid tokens and has a token at which it would add missing lines. A linter reports the gaps without the
number that is asked for. Lines missing behind a method may be added in front of the gap that was
measured: if one token, on the line of the method's closing token, is all that the next content follows.
-/
namespace BlankLines.Linter

open TokenFile

/-- A rule asks for a number of blank lines in a gap and would add missing ones at the anchor. -/
inductive Asks (linter : Linter) (file : TokenFile) (low high : Nat) : Nat → Nat → Prop where
  | brace {afterOpening beforeClosing wanted : Nat} {level : Level}
      (active : (.braceSpacing afterOpening beforeClosing, level) ∈ linter.rules)
      (gap : file.Adjoin low high)
      (wants : BraceSpacing.Wants afterOpening beforeClosing file low high wanted) :
      Asks linter file low high low wanted
  | method {between closer : Nat} {level : Level}
      (active : (.methodSpacing between, level) ∈ linter.rules)
      (plain : MethodSpacing.declaresInterface file = false)
      (ended : closer ∈ MethodSpacing.ends file)
      (trails : MethodSpacing.Trails file closer low high) :
      Asks linter file low high (max (high - 2) closer) between

/-- What lets the rules of a linter read a file right: its lines follow its text, no number is too
large, and the scopes that the rules look up end at solid tokens. -/
structure Reads (linter : Linter) (file : TokenFile) : Prop where
  laidOut : file.LaidOut
  small : file.LinesBelow Word.half
  counts : linter.CountsBelow Word.half
  braces : ∀ afterOpening beforeClosing level,
    (.braceSpacing afterOpening beforeClosing, level) ∈ linter.rules → BraceSpacing.BracesSolid file
  closers : ∀ between level,
    (.methodSpacing between, level) ∈ linter.rules → MethodSpacing.ClosersSolid file

variable {linter : Linter} {file : TokenFile} {violation : Violation} {changeset : Changeset}
  {correction : Correction} {wanted anchor low high : Nat}

theorem Asks.gap (asks : linter.Asks file low high anchor wanted) : file.Adjoin low high := by
  cases asks with
  | brace _ gap _ => exact gap
  | method _ _ _ trails => exact trails.gap

theorem Asks.below (asks : linter.Asks file low high anchor wanted) : anchor < high := by
  have order := asks.gap.order
  cases asks with
  | brace => exact order
  | method _ _ _ trails =>
    have behind := trails.behind
    omega

theorem exists_offered (made : correction ∈ linter.corrections file) :
    ∃ changeset ∈ (linter.lint file).filterMap (·.fix), correction ∈ changeset := by
  obtain ⟨violation, reported, changeset, fixed, inside⟩ := mem_corrections made
  exact ⟨changeset, List.mem_filterMap.mpr ⟨violation, reported, fixed⟩, inside⟩

/-- Solid tokens are not deleted. -/
theorem notMem_corrections_of_solidAt {position : Nat} (solid : file.solidAt position = true) :
    .delete position ∉ linter.corrections file := fun deleted =>
  Bool.false_ne_true ((breaksAt_of_solidAt solid).symm.trans (breaksAt_of_corrections deleted))

namespace Reads

/-- A linter reports nothing but gaps without the blank lines that are asked for. -/
theorem asks_of_lint (reads : linter.Reads file) (reported : violation ∈ linter.lint file) :
    ∃ low high anchor wanted, linter.Asks file low high anchor wanted ∧
      ∑ position ∈ Finset.Ico low high, file.breaksOf position ≠ wanted + 1 ∧
      violation.fix = some (file.repairAt wanted anchor low high) := by
  obtain ⟨position, token, rule, level, found, active, kind, checked⟩ := mem_lint_iff.mp reported
  cases rule with
  | braceSpacing afterOpening beforeClosing =>
    obtain ⟨afterSmall, beforeSmall⟩ := reads.counts _ active
    obtain ⟨low, high, wanted, gap, wants, wrong, fixed⟩ := BraceSpacing.gap_of_check reads.laidOut
      reads.small (reads.braces _ _ _ active) afterSmall beforeSmall found kind checked
    exact ⟨low, high, low, wanted, .brace active gap wants, wrong, fixed⟩
  | methodSpacing between =>
    obtain ⟨plain, closer, ended, low, high, trails, wrong, fixed⟩ := MethodSpacing.gap_of_check
      reads.laidOut reads.small (reads.counts _ active) (reads.closers _ _ active) found kind checked
    exact ⟨low, high, _, between, .method active plain ended trails, wrong, fixed⟩

/-- A linter reports every gap without the blank lines that are asked for. -/
theorem lint_of_asks (reads : linter.Reads file) (asks : linter.Asks file low high anchor wanted)
    (wrong : ∑ position ∈ Finset.Ico low high, file.breaksOf position ≠ wanted + 1) :
    ∃ violation ∈ linter.lint file,
      violation.fix = some (file.repairAt wanted anchor low high) := by
  cases asks with
  | @brace afterOpening beforeClosing _ level active gap wants =>
    obtain ⟨afterSmall, beforeSmall⟩ := reads.counts _ active
    obtain ⟨position, token, found, kind, violation, reported, fixed⟩ := BraceSpacing.check_of_gap
      reads.laidOut reads.small afterSmall beforeSmall level gap wants wrong
    exact ⟨violation, mem_lint_iff.mpr ⟨position, token, _, level, found, active, kind, reported⟩,
      fixed⟩
  | @method _ closer level active plain ended trails =>
    obtain ⟨position, token, found, kind, closes⟩ := MethodSpacing.mem_ends.mp ended
    obtain ⟨violation, reported, fixed⟩ := MethodSpacing.check_of_gap reads.laidOut reads.small
      (reads.counts _ active) plain closes trails wrong level
    exact ⟨violation, mem_lint_iff.mpr ⟨position, token, _, level, found, active, kind, reported⟩,
      fixed⟩

theorem offered_iff (reads : linter.Reads file) :
    changeset ∈ (linter.lint file).filterMap (·.fix) ↔
      ∃ low high anchor wanted, linter.Asks file low high anchor wanted ∧
        ∑ position ∈ Finset.Ico low high, file.breaksOf position ≠ wanted + 1 ∧
        changeset = file.repairAt wanted anchor low high := by
  rw [List.mem_filterMap]
  constructor
  · rintro ⟨violation, reported, fixed⟩
    obtain ⟨low, high, anchor, wanted, asks, wrong, fixed'⟩ := reads.asks_of_lint reported
    rw [fixed, Option.some.injEq] at fixed'
    exact ⟨low, high, anchor, wanted, asks, wrong, fixed'⟩
  · rintro ⟨low, high, anchor, wanted, asks, wrong, rfl⟩
    exact reads.lint_of_asks asks wrong

theorem lint_eq_nil_iff (reads : linter.Reads file) : linter.lint file = [] ↔
    ∀ low high anchor wanted, linter.Asks file low high anchor wanted →
      ∑ position ∈ Finset.Ico low high, file.breaksOf position = wanted + 1 := by
  rw [List.eq_nil_iff_forall_not_mem]
  constructor
  · intro clean low high anchor wanted asks
    by_contra wrong
    obtain ⟨violation, reported, _⟩ := reads.lint_of_asks asks wrong
    exact clean violation reported
  · intro right violation reported
    obtain ⟨low, high, anchor, wanted, asks, wrong, _⟩ := reads.asks_of_lint reported
    exact wrong (right low high anchor wanted asks)

/-- Lines that are to be added in front of their gap go to the end of the gap before it, which has no
line ending, and their own gap is one token. -/
theorem gap_of_stray (reads : linter.Reads file) (asks : linter.Asks file low high anchor wanted)
    (stray : anchor < low) : high = low + 1 ∧ low = anchor + 1 ∧ ∃ before, file.Adjoin before low ∧
      before ≤ anchor ∧ ∑ position ∈ Finset.Ico before low, file.breaksOf position = 0 := by
  cases asks with
  | brace => exact absurd stray (Nat.lt_irrefl _)
  | @method _ closer level active plain ended trails =>
    have order := trails.gap.order
    have behind := trails.behind
    obtain ⟨solidLow, _⟩ := adjoin_iff.mp trails.gap
    obtain ⟨before, gap, above⟩ := exists_adjoin_before
      ((reads.closers _ _ active).ends ended) solidLow (show closer < low by omega)
    have order' := gap.order
    refine ⟨by omega, by omega, before, gap, by omega, ?_⟩
    exact Finset.sum_eq_zero fun position member => Finset.sum_eq_zero_iff.mp trails.unbroken position
      (Finset.Ico_subset_Ico_left above member)

/-- What enters a gap is the repair of the gap, or lines missing in the next one that are to be added
here, where there is no line ending. -/
theorem entering (reads : linter.Reads file) (gap : file.Adjoin low high)
    (offered : changeset ∈ (linter.lint file).filterMap (·.fix))
    (inside : correction ∈ changeset) (enters : inGap low high correction.position = true) :
    (∃ anchor wanted, low ≤ anchor ∧ linter.Asks file low high anchor wanted ∧
      ∑ position ∈ Finset.Ico low high, file.breaksOf position ≠ wanted + 1 ∧
      changeset = file.repairAt wanted anchor low high) ∨
    (∑ position ∈ Finset.Ico low high, file.breaksOf position = 0 ∧
      ∃ after anchor wanted, anchor < high ∧ linter.Asks file high after anchor wanted ∧
        ∑ position ∈ Finset.Ico high after, file.breaksOf position < wanted + 1 ∧
        changeset = file.repairAt wanted anchor high after) := by
  obtain ⟨low', high', anchor, wanted, asks, wrong, rfl⟩ := reads.offered_iff.mp offered
  obtain ⟨above, below⟩ := of_decide_eq_true enters
  have own {position : Nat} (above : low ≤ position) (below : position < high)
      (above' : low' ≤ position) (below' : position < high') : low' = low ∧ high' = high :=
    gap.eq_of_meet asks.gap above below above' below'
  rcases mem_repairAt inside with ⟨surplus, place, listed, rfl⟩ | ⟨short, rfl⟩
  · obtain ⟨above', below', _⟩ := mem_lineBreaks.mp listed
    obtain ⟨rfl, rfl⟩ := own above below (Nat.le_of_succ_le above') below'
    refine .inl ⟨anchor, wanted, ?_, asks, wrong, rfl⟩
    by_contra stray
    obtain ⟨rfl, _⟩ := reads.gap_of_stray asks (Nat.lt_of_not_le stray)
    omega
  · rcases Nat.lt_or_ge anchor low' with stray | inGap
    · obtain ⟨_, rfl, before, gap', above', none⟩ := reads.gap_of_stray asks stray
      obtain ⟨rfl, rfl⟩ := gap.eq_of_meet gap' above below above' (Nat.lt_succ_self anchor)
      exact .inr ⟨none, high', anchor, wanted, stray, asks, short, rfl⟩
    · obtain ⟨rfl, rfl⟩ := own above below inGap asks.below
      exact .inl ⟨anchor, wanted, inGap, asks, wrong, rfl⟩

section Pass

variable (reads : linter.Reads file) (asks : linter.Asks file low high anchor wanted)
  (agree : ∀ anchor' wanted', linter.Asks file low high anchor' wanted' → wanted' = wanted)
  (broken : 0 < ∑ position ∈ Finset.Ico low high, file.breaksOf position)

include reads asks agree broken

theorem outside_or_repairAt (offered : changeset ∈ (linter.lint file).filterMap (·.fix)) :
    Fixer.Outside (inGap low high) changeset ∨
      ∃ place, low ≤ place ∧ linter.Asks file low high place wanted ∧
        ∑ position ∈ Finset.Ico low high, file.breaksOf position ≠ wanted + 1 ∧
        changeset = file.repairAt wanted place low high := by
  by_cases outside : Fixer.Outside (inGap low high) changeset
  · exact .inl outside
  · simp only [Fixer.Outside, not_forall, Bool.not_eq_false] at outside
    obtain ⟨correction, inside, enters⟩ := outside
    rcases reads.entering asks.gap offered inside enters with
      ⟨place, wanted', above, asks', wrong, rfl⟩ | ⟨none, _⟩
    · obtain rfl := agree place wanted' asks'
      exact .inr ⟨place, above, asks', wrong, rfl⟩
    · exact absurd none broken.ne'

/-- A pass leaves a gap with what all rules ask for it, if there are not too few lines or all of them
would add the missing ones at the same token of the gap. -/
theorem sum_breaksAfter_eq
    (same : ∑ position ∈ Finset.Ico low high, file.breaksOf position < wanted + 1 → low ≤ anchor ∧
      ∀ place, low ≤ place → linter.Asks file low high place wanted → place = anchor) :
    ∑ position ∈ Finset.Ico low high, file.breaksAfter (linter.corrections file) position =
      wanted + 1 := by
  have entering (changeset) (offered : changeset ∈ (linter.lint file).filterMap (·.fix)) :=
    reads.outside_or_repairAt asks agree broken offered
  have offered (wrong : ∑ position ∈ Finset.Ico low high, file.breaksOf position ≠ wanted + 1) :=
    reads.offered_iff.mpr ⟨low, high, anchor, wanted, asks, wrong, rfl⟩
  rcases Nat.lt_or_ge (∑ position ∈ Finset.Ico low high, file.breaksOf position) (wanted + 1)
    with short | enough
  · obtain ⟨above, single⟩ := same short
    refine Fixer.sum_breaksAfter_accepted reads.laidOut asks.gap above asks.below ?_ offered
    intro changeset member
    refine (entering changeset member).imp_right ?_
    rintro ⟨place, within, asks', wrong, rfl⟩
    rw [single place within asks']
    exact ⟨rfl, wrong⟩
  · -- Deletions are the same wherever lines would be added.
    have anywhere (place : Nat) (wrong : ∑ position ∈ Finset.Ico low high, file.breaksOf position ≠
        wanted + 1) : file.repairAt wanted place low high = file.repairAt wanted low low high := by
      have surplus := Nat.lt_of_le_of_ne enough wrong.symm
      rw [repairAt_of_surplus surplus, repairAt_of_surplus surplus]
    refine Fixer.sum_breaksAfter_accepted reads.laidOut asks.gap (Nat.le_refl low) asks.gap.order ?_
      fun wrong => anywhere anchor wrong ▸ offered wrong
    intro changeset member
    refine (entering changeset member).imp_right ?_
    rintro ⟨place, _, _, wrong, rfl⟩
    exact ⟨anywhere place wrong, wrong⟩

/-- A pass leaves a gap with no fewer lines than all rules ask for it, if one of them would add missing
ones in the gap. -/
theorem le_sum_breaksAfter (above : low ≤ anchor)
    (short : ∑ position ∈ Finset.Ico low high, file.breaksOf position < wanted + 1) :
    wanted + 1 ≤ ∑ position ∈ Finset.Ico low high,
      file.breaksAfter (linter.corrections file) position := by
  refine Fixer.le_sum_breaksAfter_accepted reads.laidOut asks.gap above asks.below short ?_
    (reads.offered_iff.mpr ⟨low, high, anchor, wanted, asks, Nat.ne_of_lt short, rfl⟩)
  intro changeset member
  refine (reads.outside_or_repairAt asks agree broken member).imp_right ?_
  rintro ⟨place, within, asks', _, rfl⟩
  exact ⟨place, within, asks'.below, rfl⟩

end Pass

/-- Of each repair that is reported a pass makes a correction, or another one in its place. -/
theorem exists_correction_meeting (reads : linter.Reads file)
    (asks : linter.Asks file low high anchor wanted)
    (wrong : ∑ position ∈ Finset.Ico low high, file.breaksOf position ≠ wanted + 1) :
    ∃ made ∈ linter.corrections file, ∃ own ∈ file.repairAt wanted anchor low high,
      made.position = own.position := by
  obtain ⟨taken, accepted, made, there, own, inside, meet⟩ := Fixer.exists_accepted_meeting
    (repairAt_ne_nil reads.laidOut asks.gap wrong)
    (Fixer.accepts_repairAt asks.gap asks.below wanted)
    (reads.offered_iff.mpr ⟨low, high, anchor, wanted, asks, wrong, rfl⟩)
  exact ⟨made, List.mem_flatten.mpr ⟨taken, accepted, there⟩, own, inside, meet⟩

/-- Where a rule adds missing lines there is a line ending after the pass, whichever repair is made. -/
theorem breaksAfter_anchor_pos (reads : linter.Reads file)
    (asks : linter.Asks file low high anchor wanted)
    (short : ∑ position ∈ Finset.Ico low high, file.breaksOf position < wanted + 1)
    (unbroken : file.breaksAt anchor = false) :
    0 < file.breaksAfter (linter.corrections file) anchor := by
  have kept : .delete anchor ∉ linter.corrections file := fun deleted =>
    Bool.false_ne_true (unbroken.symm.trans (breaksAt_of_corrections deleted))
  obtain ⟨made, member, own, inside, meet⟩ :=
    reads.exists_correction_meeting asks (Nat.ne_of_lt short)
  have here : own.position = anchor := by
    rcases mem_repairAt inside with ⟨surplus, _⟩ | ⟨_, rfl⟩
    · exact absurd short (Nat.lt_asymm surplus)
    · rfl
  have listed : made ∈ (linter.corrections file).filter (·.position = anchor) :=
    List.mem_filter.mpr ⟨member, decide_eq_true (meet.trans here)⟩
  have found := List.getElem?_eq_getElem (asks.below.trans asks.gap.high_lt)
  rw [reads.laidOut.breaksAfter_kept found kept]
  exact Nat.add_pos_right _ (List.length_pos_of_mem listed)

/-- A pass leaves line endings between two tokens that have some, the first of them solid. -/
theorem sum_breaksAfter_pos (reads : linter.Reads file) (solid : file.solidAt low = true)
    (broken : 0 < ∑ position ∈ Finset.Ico low high, file.breaksOf position) :
    0 < ∑ position ∈ Finset.Ico low high,
      file.breaksAfter (linter.corrections file) position := by
  obtain ⟨first, begins, firstSolid⟩ := solidAt_iff.mp solid
  exact reads.laidOut.sum_breaksAfter_pos
    (fun position deleted => spare_of_corrections reads.laidOut reads.small reads.counts deleted)
    begins firstSolid broken

end Reads

end BlankLines.Linter
