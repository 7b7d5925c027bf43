import BlankLines.Proofs.Linter.Demand

/-!
How the gaps of a file settle from pass to pass. After any pass each gap that a rule asks about has a
line ending, and lines that it still misses are added in the gap itself. From then on the same gaps are
asked about. A further pass leaves them with lines enough, and a pass after that with no more than that:
three passes leave nothing to report, unless rules ask for different numbers of lines in one gap.
-/
namespace BlankLines.Linter

open TokenFile

/-- Each gap that is asked about has a line ending, and missing lines are added in that gap. -/
def Settled (linter : Linter) (file : TokenFile) : Prop :=
  ∀ low high anchor wanted, linter.Asks file low high anchor wanted →
    0 < ∑ position ∈ Finset.Ico low high, file.breaksOf position ∧
      (∑ position ∈ Finset.Ico low high, file.breaksOf position < wanted + 1 → low ≤ anchor)

/-- No gap has fewer lines than are asked for. -/
def Ample (linter : Linter) (file : TokenFile) : Prop :=
  ∀ low high anchor wanted, linter.Asks file low high anchor wanted →
    wanted + 1 ≤ ∑ position ∈ Finset.Ico low high, file.breaksOf position

/-- All that is asked about one gap is the same. -/
def Agrees (linter : Linter) (file : TokenFile) : Prop :=
  ∀ low high anchor wanted anchor' wanted', linter.Asks file low high anchor wanted →
    linter.Asks file low high anchor' wanted' → wanted' = wanted

/-- The linter asks for one number of blank lines between methods. -/
def SingleCount (linter : Linter) : Prop :=
  ∀ between level between' level', (.methodSpacing between, level) ∈ linter.rules →
    (.methodSpacing between', level') ∈ linter.rules → between' = between

variable {linter : Linter} {file : TokenFile} {correction : Correction} {wanted anchor low high : Nat}

theorem Ample.settled (ample : linter.Ample file) : linter.Settled file := by
  intro low high anchor wanted asks
  have enough := ample low high anchor wanted asks
  exact ⟨Nat.lt_of_lt_of_le (Nat.succ_pos wanted) enough,
    fun short => absurd short (Nat.not_lt_of_le enough)⟩

namespace Reads

theorem pass (reads : linter.Reads file) (small : (linter.pass file).LinesBelow Word.half) :
    linter.Reads (linter.pass file) where
  laidOut := pass_laidOut reads.laidOut
  small := small
  counts := reads.counts
  braces afterOpening beforeClosing level active := by
    rw [pass_eq]
    exact (reads.braces afterOpening beforeClosing level active).revise _
  closers between level active := by
    rw [pass_eq]
    exact (reads.closers between level active).revise _

theorem iterate (reads : linter.Reads file) {n : Nat}
    (small : ∀ m ≤ n, (linter.pass^[m] file).LinesBelow Word.half) :
    linter.Reads (linter.pass^[n] file) := by
  induction n with
  | zero => exact reads
  | succ n ih =>
    have last := small (n + 1) (Nat.le_refl _)
    rw [Function.iterate_succ_apply'] at last ⊢
    exact (ih fun m early => small m (Nat.le_succ_of_le early)).pass last

theorem spared (reads : linter.Reads file) {position : Nat}
    (deleted : .delete position ∈ linter.corrections file) : file.Spare position :=
  spare_of_corrections reads.laidOut reads.small reads.counts deleted

theorem sum_breaksOf_pass (reads : linter.Reads file) (gap : file.Adjoin low high) :
    ∑ position ∈ Finset.Ico (file.moved (linter.corrections file) low)
        (file.moved (linter.corrections file) high), (linter.pass file).breaksOf position =
      ∑ position ∈ Finset.Ico low high,
        file.breaksAfter (linter.corrections file) position := by
  rw [pass_eq]
  exact gap.sum_breaksOf_revise reads.laidOut _

theorem apart_pass_iff_breaksAfter (reads : linter.Reads file) {k : Nat} {first second : Token}
    (begins : file.solids[k]? = some (first, low)) (next : file.solids[k + 1]? = some (second, high)) :
    (linter.pass file).Apart k ↔ 0 < ∑ position ∈ Finset.Ico low high,
      file.breaksAfter (linter.corrections file) position := by
  have gap : file.Adjoin low high := ⟨k, first, second, begins, next⟩
  rw [pass_eq, (reads.laidOut.revise _).apart_iff (solids_revise _ begins) (solids_revise _ next),
    gap.sum_breaksOf_revise reads.laidOut]

theorem exists_gap_of_pass (asks : linter.Asks (linter.pass file) low high anchor wanted) :
    ∃ low' high', file.Adjoin low' high' ∧ low = file.moved (linter.corrections file) low' ∧
      high = file.moved (linter.corrections file) high' := by
  have gap := asks.gap
  rw [pass_eq] at gap
  exact gap.of_revise

/-- After a pass there is a line ending in each gap that is asked about: braces ask for one, and behind
a method only a gap with one is measured. -/
theorem broken_of_pass (reads : linter.Reads file)
    (asks : linter.Asks (linter.pass file) low high anchor wanted) :
    0 < ∑ position ∈ Finset.Ico low high, (linter.pass file).breaksOf position := by
  cases asks with
  | method _ _ _ trails => exact trails.broken
  | @brace afterOpening beforeClosing _ level active gap wants =>
    rw [pass_eq] at gap wants
    obtain ⟨low, high, original, rfl, rfl⟩ := gap.of_revise
    have asks : linter.Asks file low high low wanted :=
      .brace active original (wants.of_revise (reads.braces _ _ _ active) original)
    obtain ⟨solidLow, _⟩ := adjoin_iff.mp original
    rw [reads.sum_breaksOf_pass original]
    rcases Nat.eq_zero_or_pos (∑ position ∈ Finset.Ico low high, file.breaksOf position)
      with none | some
    · exact Finset.sum_pos' (fun _ _ => Nat.zero_le _) ⟨low, Finset.left_mem_Ico.mpr original.order,
        reads.breaksAfter_anchor_pos asks (by omega) (breaksAt_of_solidAt solidLow)⟩
    · exact reads.sum_breaksAfter_pos solidLow some

/-- What braces ask for they ask for again after a pass. -/
theorem asks_pass_of_wants {afterOpening beforeClosing : Nat} {level : Level}
    (active : (.braceSpacing afterOpening beforeClosing, level) ∈ linter.rules)
    (gap : file.Adjoin low high)
    (wants : BraceSpacing.Wants afterOpening beforeClosing file low high wanted) :
    linter.Asks (linter.pass file) (file.moved (linter.corrections file) low)
      (file.moved (linter.corrections file) high) (file.moved (linter.corrections file) low)
      wanted := by
  rw [pass_eq]
  exact .brace active (gap.revise _) (wants.revise gap _)

/-- After one pass a file is settled, if the rules then agree. -/
theorem settled_pass (reads : linter.Reads file) (single : linter.SingleCount)
    (agrees : linter.Agrees (linter.pass file)) : linter.Settled (linter.pass file) := by
  intro low' high' anchor' wanted asks'
  refine ⟨reads.broken_of_pass asks', ?_⟩
  intro short
  by_contra stray
  obtain ⟨low, high, gap, rfl, rfl⟩ := exists_gap_of_pass asks'
  have asked := asks'
  cases asks' with
  | brace => exact stray (Nat.le_refl _)
  | @method _ closer' level active plain' ended' trails' =>
    have broken' := trails'.broken
    have order' := trails'.gap.order
    have behind' := trails'.behind
    have quiet := trails'.unbroken
    rw [pass_eq] at plain' ended' trails'
    obtain ⟨closer, ended, rfl⟩ := MethodSpacing.exists_of_ends_revise ended'
    have solid := (reads.closers _ _ active).ends ended
    obtain ⟨solidLow, _⟩ := adjoin_iff.mp gap
    -- The gap is its first token alone, which had its line ending before the pass.
    have broken : 0 < ∑ position ∈ Finset.Ico low high, file.breaksOf position := by
      have one : file.moved (linter.corrections file) high =
          file.moved (linter.corrections file) low + 1 := by omega
      rw [one, Nat.Ico_succ_singleton, Finset.sum_singleton, pass_eq,
        breaksOf_moved solidLow (notMem_corrections_of_solidAt solidLow)] at broken'
      exact Finset.sum_pos' (fun _ _ => Nat.zero_le _)
        ⟨low, Finset.left_mem_Ico.mpr gap.order, broken'⟩
    have trails := trails'.of_revise reads.laidOut (fun _ => reads.spared) solid gap broken
    rw [MethodSpacing.declaresInterface_revise] at plain'
    have asks : linter.Asks file low high _ _ := .method active plain' ended trails
    have agree : ∀ place wanted', linter.Asks file low high place wanted' → wanted' = wanted := by
      intro place wanted' other
      cases other with
      | brace active' gap wants =>
        exact agrees _ _ _ _ _ _ asked (asks_pass_of_wants active' gap wants)
      | method active' => exact single _ _ _ _ active active'
    rw [reads.sum_breaksOf_pass gap] at short
    rcases Nat.lt_or_ge (∑ position ∈ Finset.Ico low high, file.breaksOf position) (wanted + 1)
      with few | enough
    · rcases Nat.lt_or_ge (max (high - 2) closer) low with before | above
      · -- The missing lines come before the gap, so that the closing token's line ends there.
        have behind := trails.behind
        have within : max (high - 2) closer ∈ Finset.Ico closer low :=
          Finset.mem_Ico.mpr ⟨Nat.le_max_right _ _, before⟩
        have unbroken := breaksAt_of_breaksOf
          (Finset.sum_eq_zero_iff.mp trails.unbroken _ within)
        have ends : 0 < ∑ position ∈ Finset.Ico closer low,
            file.breaksAfter (linter.corrections file) position :=
          Finset.sum_pos' (fun _ _ => Nat.zero_le _)
            ⟨_, within, reads.breaksAfter_anchor_pos asks few unbroken⟩
        rw [pass_eq, reads.laidOut.sum_breaksOf_revise solid solidLow behind] at quiet
        exact ends.ne' quiet
      · have := reads.le_sum_breaksAfter asks agree broken above few
        omega
    · have := reads.sum_breaksAfter_eq asks agree broken fun few =>
        absurd few (Nat.not_lt_of_le enough)
      omega

/-- The first line ending of a gap is put there because the gap is asked about, or else for want of lines
in the next one. -/
theorem exists_asks_of_broken (reads : linter.Reads file) (gap : file.Adjoin low high)
    (unbroken : ∑ position ∈ Finset.Ico low high, file.breaksOf position = 0)
    (broken : 0 < ∑ position ∈ Finset.Ico low high,
      file.breaksAfter (linter.corrections file) position) :
    (∃ anchor wanted, linter.Asks file low high anchor wanted) ∨
      ∃ after anchor wanted, anchor < high ∧ linter.Asks file high after anchor wanted ∧
        ∑ position ∈ Finset.Ico high after, file.breaksOf position < wanted + 1 := by
  by_cases enters : ∃ correction ∈ linter.corrections file, inGap low high correction.position = true
  · obtain ⟨correction, made, enters⟩ := enters
    obtain ⟨changeset, offered, inside⟩ := exists_offered made
    rcases reads.entering gap offered inside enters with
      ⟨anchor, wanted, _, asks, _⟩ | ⟨_, after, anchor, wanted, stray, asks, short, _⟩
    · exact .inl ⟨anchor, wanted, asks⟩
    · exact .inr ⟨after, anchor, wanted, stray, asks, short⟩
  · have same : (linter.corrections file).filter (inGap low high ·.position) =
        ([] : List Correction).filter (inGap low high ·.position) := by
      rw [List.filter_nil, List.filter_eq_nil_iff]
      exact fun correction made inside => enters ⟨correction, made, inside⟩
    rw [sum_breaksAfter_congr same, breaksAfter_nil] at broken
    exact absurd unbroken broken.ne'

/-- After a pass over a settled file nothing is asked about that was not asked about before. -/
theorem exists_asks_of_pass (reads : linter.Reads file) (settled : linter.Settled file)
    (asks : linter.Asks (linter.pass file) low high anchor wanted) :
    ∃ low' high' anchor', linter.Asks file low' high' anchor' wanted ∧
      low = file.moved (linter.corrections file) low' ∧
      high = file.moved (linter.corrections file) high' := by
  obtain ⟨low, high, gap, rfl, rfl⟩ := exists_gap_of_pass asks
  have broken := reads.broken_of_pass asks
  rw [reads.sum_breaksOf_pass gap] at broken
  cases asks with
  | brace active _ wants =>
    rw [pass_eq] at wants
    have wants := wants.of_revise (reads.braces _ _ _ active) gap
    exact ⟨low, high, low, .brace active gap wants, rfl, rfl⟩
  | method active plain ended' trails =>
    rw [pass_eq] at plain ended' trails
    obtain ⟨closer, ended, rfl⟩ := MethodSpacing.exists_of_ends_revise ended'
    rw [MethodSpacing.declaresInterface_revise] at plain
    have solid := (reads.closers _ _ active).ends ended
    have before : 0 < ∑ position ∈ Finset.Ico low high, file.breaksOf position := by
      by_contra unbroken
      rcases reads.exists_asks_of_broken gap (Nat.eq_zero_of_not_pos unbroken) broken with
        ⟨anchor, wanted, asks⟩ | ⟨after, anchor, wanted, stray, asks, short⟩
      · exact unbroken (settled _ _ _ _ asks).1
      · exact Nat.not_le_of_lt stray ((settled _ _ _ _ asks).2 short)
    have trails := trails.of_revise reads.laidOut (fun _ => reads.spared) solid gap before
    exact ⟨low, high, _, .method active plain ended trails, rfl, rfl⟩

/-- A pass over a settled file leaves nothing to report, if all that is to be added to one gap is to be
added at the same token. -/
theorem lint_pass (reads : linter.Reads file) (settled : linter.Settled file)
    (agrees : linter.Agrees file)
    (single : ∀ low high anchor place wanted, linter.Asks file low high anchor wanted →
      linter.Asks file low high place wanted →
      ∑ position ∈ Finset.Ico low high, file.breaksOf position < wanted + 1 →
      low ≤ anchor → low ≤ place → place = anchor)
    (small : (linter.pass file).LinesBelow Word.half) : linter.lint (linter.pass file) = [] := by
  rw [(reads.pass small).lint_eq_nil_iff]
  intro low' high' anchor' wanted asks'
  obtain ⟨low, high, anchor, asks, rfl, rfl⟩ := reads.exists_asks_of_pass settled asks'
  obtain ⟨broken, inside⟩ := settled low high anchor wanted asks
  rw [reads.sum_breaksOf_pass asks.gap]
  refine reads.sum_breaksAfter_eq asks
    (fun place wanted' => agrees low high anchor wanted place wanted' asks) broken ?_
  intro short
  exact ⟨inside short, fun place within asks' =>
    single low high anchor place wanted asks asks' short (inside short) within⟩

end Reads

end BlankLines.Linter
