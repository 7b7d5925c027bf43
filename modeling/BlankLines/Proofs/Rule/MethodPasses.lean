import BlankLines.Proofs.Linter.Settling

/-!
Runs of the method rule alone. Two passes leave it nothing to report. A run divides a line of code in one
kind of place only: in front of a token that ends the line of a method's closing token and is directly
followed by the next content. Lines that are missing behind such a token are added before it.
-/
namespace BlankLines.MethodSpacing

open TokenFile

/-- The linter that runs this rule alone. -/
def alone (between : Nat) (level : Level) : Linter where
  rules := [(.methodSpacing between, level)]

variable {file : TokenFile} {level : Level} {between wanted anchor low high k n : Nat}

theorem asks_alone : (alone between level).Asks file low high anchor wanted ↔
    declaresInterface file = false ∧ wanted = between ∧ ∃ closer ∈ ends file,
      Trails file closer low high ∧ anchor = max (high - 2) closer := by
  constructor
  · intro asks
    cases asks with
    | brace active => exact absurd (List.mem_singleton.mp active) (by simp)
    | @method _ closer _ active plain ended trails =>
      obtain ⟨rfl, rfl⟩ : wanted = between ∧ _ = level := by simpa [alone] using active
      exact ⟨plain, rfl, closer, ended, trails, rfl⟩
  · rintro ⟨plain, rfl, closer, ended, trails, rfl⟩
    exact .method (List.mem_singleton_self _) plain ended trails

theorem reads_alone (laidOut : file.LaidOut) (closed : ClosersSolid file)
    (count : between < Word.half) (small : file.LinesBelow Word.half) :
    (alone between level).Reads file where
  laidOut := laidOut
  small := small
  counts := by
    intro entry active
    rw [List.mem_singleton.mp active]
    exact count
  braces _ _ _ active := absurd (List.mem_singleton.mp active) (by simp)
  closers _ _ _ := closed

theorem agrees_alone : (alone between level).Agrees file := by
  intro low high anchor wanted anchor' wanted' asks asks'
  obtain ⟨_, rfl, _⟩ := asks_alone.mp asks
  obtain ⟨_, rfl, _⟩ := asks_alone.mp asks'
  rfl

theorem singleCount_alone : (alone between level).SingleCount := by
  intro between level between' level' active active'
  have same := (List.mem_singleton.mp active').trans (List.mem_singleton.mp active).symm
  simpa using congrArg Prod.fst same

theorem settled_pass_alone (reads : (alone between level).Reads file) :
    (alone between level).Settled ((alone between level).pass file) :=
  reads.settled_pass singleCount_alone agrees_alone

/-- Two passes leave this rule nothing to report. -/
theorem lint_pass_pass_eq_nil (laidOut : file.LaidOut) (closed : ClosersSolid file)
    (count : between < Word.half)
    (small : ∀ n ≤ 2, ((alone between level).pass^[n] file).LinesBelow Word.half) :
    (alone between level).lint
      ((alone between level).pass ((alone between level).pass file)) = [] := by
  have reads := @reads_alone file level between laidOut closed count (small 0 (by decide))
  have settled := settled_pass_alone reads
  refine (reads.pass (small 1 (by decide))).lint_pass settled agrees_alone ?_ (small 2 (by decide))
  intro low high anchor place wanted asks asks' _ above above'
  obtain ⟨_, _, closer, _, trails, rfl⟩ := asks_alone.mp asks
  obtain ⟨_, _, closer', _, trails', rfl⟩ := asks_alone.mp asks'
  have behind := trails.behind
  have behind' := trails'.behind
  have order := trails.gap.order
  omega

/-- A method with a comment on its last line and the next one directly behind that line. -/
def trailingNote : TokenFile where
  tokens := [
    { kind := .functionDecl, line := 1, content := "function", scopeOpener := some 1,
      scopeCloser := some 2 },
    { kind := .openBrace, line := 1, content := "\x7b" },
    { kind := .closeBrace, line := 1, content := "\x7d" },
    { kind := .whitespace, line := 1, content := " " },
    { kind := .comment, line := 1, content := "// c\n" },
    { kind := .functionDecl, line := 2, content := "function" }]

theorem lint_pass_pass_trailingNote :
    ((alone 2 .error).lint ((alone 2 .error).pass trailingNote)).length = 1 ∧
      (alone 2 .error).lint ((alone 2 .error).pass ((alone 2 .error).pass trailingNote)) = [] :=
  ⟨by decide +kernel,
    lint_pass_pass_eq_nil (by decide +kernel) (by decide +kernel) (by decide) (by decide +kernel)⟩

/-- The `(k + 1)`-th solid token ends the line of a method's closing token, which is not behind the
`k`-th, and the next content follows it directly. -/
def Divides (file : TokenFile) (k : Nat) : Prop :=
  declaresInterface file = false ∧ ∃ closer ∈ ends file, ∃ first before second low,
    file.solids[k]? = some (first, before) ∧ file.solids[k + 1]? = some (second, low) ∧
      closer ≤ before ∧ Trails file closer low (low + 1)

theorem Divides.exists_asks (divides : Divides file k) (laidOut : file.LaidOut)
    (positive : 0 < between) :
    ∃ before low anchor, (∃ first second, file.solids[k]? = some (first, before) ∧
        file.solids[k + 1]? = some (second, low)) ∧
      (alone between level).Asks file low (low + 1) anchor between ∧ before ≤ anchor ∧ anchor < low ∧
      file.breaksAt anchor = false ∧
      ∑ position ∈ Finset.Ico low (low + 1), file.breaksOf position < between + 1 := by
  obtain ⟨plain, closer, ended, first, before, second, low, begins, next, behind, trails⟩ := divides
  have order := (between_solids begins next).1
  have one := laidOut.breaksOf_le_one low
  have within : max (low + 1 - 2) closer ∈ Finset.Ico closer low := Finset.mem_Ico.mpr (by omega)
  refine ⟨before, low, max (low + 1 - 2) closer, ⟨first, second, begins, next⟩,
    asks_alone.mpr ⟨plain, rfl, closer, ended, trails, rfl⟩, by omega, by omega,
    breaksAt_of_breaksOf (Finset.sum_eq_zero_iff.mp trails.unbroken _ within), ?_⟩
  rw [Nat.Ico_succ_singleton, Finset.sum_singleton]
  omega

/-- One pass divides the lines that it must and no others. -/
theorem apart_pass_iff (reads : (alone between level).Reads file) :
    ((alone between level).pass file).Apart k ↔
      file.Apart k ∨ 0 < between ∧ Divides file k := by
  constructor
  · intro apart
    obtain ⟨first', here', second', there', found', next', _⟩ := id apart
    rw [Linter.pass_eq] at found' next'
    obtain ⟨first, low, begins, _⟩ := exists_of_solids_revise found'
    obtain ⟨second, high, next, _⟩ := exists_of_solids_revise next'
    have gap : file.Adjoin low high := ⟨k, first, second, begins, next⟩
    rw [reads.apart_pass_iff_breaksAfter begins next] at apart
    rw [reads.laidOut.apart_iff begins next]
    rcases Nat.eq_zero_or_pos (∑ position ∈ Finset.Ico low high, file.breaksOf position)
      with unbroken | broken
    · right
      rcases reads.exists_asks_of_broken gap unbroken apart with
        ⟨anchor, wanted, asks⟩ | ⟨after, anchor, wanted, stray, asks, short⟩
      · obtain ⟨_, _, _, _, trails, _⟩ := asks_alone.mp asks
        exact absurd unbroken trails.broken.ne'
      · obtain ⟨plain, rfl, closer, ended, trails, rfl⟩ := asks_alone.mp asks
        have broken := trails.broken
        have order := trails.gap.order
        obtain rfl : after = high + 1 := by omega
        have solid := (reads.closers _ _ (List.mem_singleton_self _)).ends ended
        have behind := gap.le_low solid (show closer < high by omega)
        exact ⟨by omega, plain, closer, ended, first, low, second, high, begins, next, behind, trails⟩
    · exact .inl broken
  · rintro (apart | ⟨positive, divides⟩)
    · exact Linter.pass_apart reads.laidOut reads.small reads.counts apart
    · obtain ⟨before, low, anchor, ⟨first, second, begins, next⟩, asks, above, below, unbroken, short⟩ :=
        divides.exists_asks reads.laidOut positive
      rw [reads.apart_pass_iff_breaksAfter begins next]
      exact Finset.sum_pos' (fun _ _ => Nat.zero_le _) ⟨anchor, Finset.mem_Ico.mpr ⟨above, below⟩,
        reads.breaksAfter_anchor_pos asks short unbroken⟩

theorem not_divides_of_settled (reads : (alone between level).Reads file)
    (settled : (alone between level).Settled file) (positive : 0 < between) : ¬ Divides file k := by
  intro divides
  obtain ⟨before, low, anchor, _, asks, _, below, _, short⟩ :=
    divides.exists_asks reads.laidOut positive
  exact Nat.not_le_of_lt below ((settled _ _ _ _ asks).2 short)

theorem iterate_pass_apart_iff (reads : (alone between level).Reads file)
    (small : ∀ m ≤ n, ((alone between level).pass^[m] file).LinesBelow Word.half) :
    ((alone between level).pass^[n + 1] file).Apart k ↔
      file.Apart k ∨ 0 < between ∧ Divides file k := by
  induction n with
  | zero => exact apart_pass_iff reads
  | succ n ih =>
    have earlier := fun m early => small m (Nat.le_succ_of_le early)
    have settled := settled_pass_alone (reads.iterate earlier)
    rw [← Function.iterate_succ_apply' (alone between level).pass n file] at settled
    have here := reads.iterate small
    rw [Function.iterate_succ_apply', apart_pass_iff here, ih earlier]
    exact or_iff_left fun ⟨positive, divides⟩ =>
      not_divides_of_settled here settled positive divides

/-- A run of this rule puts a line ending between two neighbouring solid tokens on one line exactly where
`Divides` says. -/
theorem fix_apart_iff (laidOut : file.LaidOut) (closed : ClosersSolid file)
    (count : between < Word.half) (small : ∀ n ≤ ((alone between level).fix file).passes,
      ((alone between level).pass^[n] file).LinesBelow Word.half) :
    ((alone between level).fix file).file.Apart k ↔
      file.Apart k ∨ 0 < between ∧ Divides file k := by
  have reads := @reads_alone file level between laidOut closed count (small 0 (Nat.zero_le _))
  rw [Linter.fix_file]
  cases passes : ((alone between level).fix file).passes with
  | zero =>
    obtain ⟨stops, _⟩ := (Linter.isLeast_passes (alone between level) file).1
    rw [passes] at stops
    refine (or_iff_left ?_).symm
    rintro ⟨positive, divides⟩
    obtain ⟨before, low, anchor, _, asks, _, _, _, short⟩ :=
      divides.exists_asks laidOut positive
    obtain ⟨violation, reported, fixed⟩ := reads.lint_of_asks asks (Nat.ne_of_lt short)
    rcases stops with clean | limited | ⟨run, _⟩
    · have unfixable := clean violation reported
      rw [Violation.isFixable, fixed] at unfixable
      exact Bool.noConfusion unfixable
    · exact absurd limited (by decide)
    · exact Nat.not_succ_le_zero 0 run
  | succ n =>
    rw [passes] at small
    exact iterate_pass_apart_iff reads fun m early => small m (Nat.le_succ_of_le early)

theorem fix_apart_trailingNote : ¬ trailingNote.Apart 2 ∧ Divides trailingNote 2 ∧
    ((alone 2 .error).fix trailingNote).file.Apart 2 := by
  have trails : Trails trailingNote 2 4 5 :=
    ⟨⟨by decide +kernel, by decide, by decide +kernel, by decide +kernel⟩, by rintro _ ⟨⟩; decide⟩
  have divides : Divides trailingNote 2 :=
    ⟨by decide +kernel, 2, by decide +kernel, _, _, _, _, rfl, rfl, by decide, trails⟩
  refine ⟨?_, divides, (fix_apart_iff (by decide +kernel) (by decide +kernel) (by decide)
    (by decide +kernel)).mpr (.inr ⟨by decide, divides⟩)⟩
  rintro ⟨first, here, second, there, found, next, lines⟩
  obtain ⟨rfl, rfl⟩ := Prod.mk.inj (Option.some.inj found)
  obtain ⟨rfl, rfl⟩ := Prod.mk.inj (Option.some.inj next)
  exact lines rfl

end BlankLines.MethodSpacing
