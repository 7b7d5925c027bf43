import BlankLines.Proofs.TokenFile.Walk
import Mathlib.Order.Interval.Set.Basic
import Mathlib.Order.Lattice.Nat

/-!
What the searches find: the first or the last of all positions that are looked for between two bounds, and
none only where there is no such position. Carried out position by position they do not leave the file.
-/
namespace BlankLines.TokenFile

/-- The token at a position is of a listed kind or, with `exclude`, of a kind that is not listed. -/
def Sought (file : TokenFile) (kinds : List TokenKind) (exclude : Bool) (position : Nat) : Prop :=
  ∃ token, file.tokens[position]? = some token ∧
    if exclude then token.kind ∉ kinds else token.kind ∈ kinds

/-- What a search onwards is for. It ends in front of `stop`, and of the end of the file. -/
def soughtNext (file : TokenFile) (kinds : List TokenKind) (start : Nat) (stop : Option Nat)
    (exclude : Bool) : Set Nat :=
  {position ∈ Set.Ico start (min (stop.getD file.tokens.length) file.tokens.length) |
    file.Sought kinds exclude position}

/-- What a search backwards is for. It begins at `start`, or at the last token, and goes down to `stop`. -/
def soughtPrevious (file : TokenFile) (kinds : List TokenKind) (start : Nat) (stop : Option Nat)
    (exclude : Bool) : Set Nat :=
  {position ∈ Set.Icc (stop.getD 0) (min start (file.tokens.length - 1)) |
    file.Sought kinds exclude position}

variable {file : TokenFile} {kinds : List TokenKind} {exclude : Bool} {start position found : Nat}
  {stop : Option Nat} {token : Token} {places : Set Nat}

theorem isWanted_iff : isWanted kinds exclude token = true ↔
    if exclude then token.kind ∉ kinds else token.kind ∈ kinds := by
  cases exclude <;> simp [isWanted]

theorem sought_iff : file.Sought kinds exclude position ↔
    ∃ token, file.tokens[position]? = some token ∧ isWanted kinds exclude token = true := by
  simp only [Sought, isWanted_iff]

theorem Sought.lt_length (sought : file.Sought kinds exclude position) :
    position < file.tokens.length := by
  obtain ⟨_, here, _⟩ := sought
  exact (List.getElem?_eq_some_iff.mp here).1

theorem mem_soughtNext_iff : position ∈ file.soughtNext kinds start stop exclude ↔
    start ≤ position ∧ (∀ bound, stop = some bound → position < bound) ∧
      file.Sought kinds exclude position := by
  rw [soughtNext, Set.mem_sep_iff, Set.mem_Ico, and_assoc]
  refine and_congr_right fun _ => and_congr_left fun sought => ?_
  have inside := sought.lt_length
  cases stop with
  | none => simpa using inside
  | some bound => simp [inside]

theorem mem_soughtPrevious_iff : position ∈ file.soughtPrevious kinds start stop exclude ↔
    stop.getD 0 ≤ position ∧ position ≤ start ∧ file.Sought kinds exclude position := by
  rw [soughtPrevious, Set.mem_sep_iff, Set.mem_Icc, and_assoc]
  refine and_congr_right fun _ => and_congr_left fun sought => ?_
  have inside := sought.lt_length
  omega

theorem findNext_eq_some_iff_isLeast : file.findNext kinds start stop exclude = some found ↔
    IsLeast (file.soughtNext kinds start stop exclude) found := by
  rw [findNext_eq_some_iff, ← sought_iff]
  constructor
  · rintro ⟨above, below, sought, before⟩
    refine ⟨mem_soughtNext_iff.mpr ⟨above, below, sought⟩, fun position member => ?_⟩
    obtain ⟨late, _, sought'⟩ := mem_soughtNext_iff.mp member
    obtain ⟨token, here, hit⟩ := sought_iff.mp sought'
    by_contra early
    exact Bool.false_ne_true
      ((before position late (Nat.lt_of_not_le early) token here).symm.trans hit)
  · rintro ⟨member, least⟩
    obtain ⟨above, below, sought⟩ := mem_soughtNext_iff.mp member
    refine ⟨above, below, sought, fun position late early token here => ?_⟩
    by_contra hit
    have member' : position ∈ file.soughtNext kinds start stop exclude :=
      mem_soughtNext_iff.mpr ⟨late, fun bound stops => early.trans (below bound stops),
        sought_iff.mpr ⟨token, here, by simpa using hit⟩⟩
    exact absurd (least member') (Nat.not_le_of_lt early)

theorem findPrevious_eq_some_iff_isGreatest :
    file.findPrevious kinds start stop exclude = some found ↔
      IsGreatest (file.soughtPrevious kinds start stop exclude) found := by
  rw [findPrevious_eq_some_iff, ← sought_iff]
  constructor
  · rintro ⟨above, below, sought, later⟩
    refine ⟨mem_soughtPrevious_iff.mpr ⟨above, below, sought⟩, fun position member => ?_⟩
    obtain ⟨_, upto, sought'⟩ := mem_soughtPrevious_iff.mp member
    obtain ⟨token, here, hit⟩ := sought_iff.mp sought'
    by_contra late
    exact Bool.false_ne_true
      ((later position (Nat.lt_of_not_le late) upto token here).symm.trans hit)
  · rintro ⟨member, greatest⟩
    obtain ⟨above, below, sought⟩ := mem_soughtPrevious_iff.mp member
    refine ⟨above, below, sought, fun position late upto token here => ?_⟩
    by_contra hit
    have member' : position ∈ file.soughtPrevious kinds start stop exclude :=
      mem_soughtPrevious_iff.mpr ⟨above.trans (Nat.le_of_lt late), upto,
        sought_iff.mpr ⟨token, here, by simpa using hit⟩⟩
    exact absurd (greatest member') (Nat.not_le_of_lt late)

/-- What finds the extreme of some places, where they have one if there are any, misses none. -/
theorem eq_none_iff_eq_empty {result : Option Nat} {extreme : Nat → Prop}
    (finds : ∀ found, result = some found ↔ extreme found)
    (exists_iff : (∃ found, extreme found) ↔ places.Nonempty) : result = none ↔ places = ∅ := by
  rw [Option.eq_none_iff_forall_ne_some, ← Set.not_nonempty_iff_eq_empty, ← exists_iff, not_exists]
  exact forall_congr' fun found => not_congr (finds found)

theorem exists_isLeast_iff : (∃ found, IsLeast places found) ↔ places.Nonempty :=
  ⟨fun ⟨found, least⟩ => ⟨found, least.1⟩,
    fun some => ⟨sInf places, Nat.sInf_mem some, fun _ member => Nat.sInf_le member⟩⟩

theorem exists_isGreatest_iff (bounded : BddAbove places) :
    (∃ found, IsGreatest places found) ↔ places.Nonempty :=
  ⟨fun ⟨found, greatest⟩ => ⟨found, greatest.1⟩,
    fun some => ⟨sSup places, Nat.sSup_mem some bounded, fun _ member => le_csSup bounded member⟩⟩

theorem bddAbove_soughtPrevious : BddAbove (file.soughtPrevious kinds start stop exclude) :=
  ⟨start, fun _ member => (mem_soughtPrevious_iff.mp member).2.1⟩

/-- The search onwards comes to the first and the search backwards to the last of all that they are for,
each to none only if there is none. Whatever the bounds are, both read nothing outside the file. -/
theorem nearest_or_none (file : TokenFile) (kinds : List TokenKind) (start : Nat) (stop : Option Nat)
    (exclude : Bool) :
    ((∀ found, file.findNext kinds start stop exclude = some found ↔
        IsLeast (file.soughtNext kinds start stop exclude) found) ∧
      (file.findNext kinds start stop exclude = none ↔
        file.soughtNext kinds start stop exclude = ∅)) ∧
    ((∀ found, file.findPrevious kinds start stop exclude = some found ↔
        IsGreatest (file.soughtPrevious kinds start stop exclude) found) ∧
      (file.findPrevious kinds start stop exclude = none ↔
        file.soughtPrevious kinds start stop exclude = ∅)) ∧
    file.walkNext kinds start stop exclude = .ok (file.findNext kinds start stop exclude) ∧
    file.walkPrevious kinds start stop exclude =
      .ok (file.findPrevious kinds start stop exclude) := by
  have next (found : Nat) := @findNext_eq_some_iff_isLeast file kinds exclude start found stop
  have previous (found : Nat) := @findPrevious_eq_some_iff_isGreatest file kinds exclude start found stop
  refine ⟨⟨next, ?_⟩, ⟨previous, ?_⟩, ?_, ?_⟩
  · exact eq_none_iff_eq_empty next exists_isLeast_iff
  · exact eq_none_iff_eq_empty previous (exists_isGreatest_iff bddAbove_soughtPrevious)
  · exact file.walkNext_eq kinds start stop exclude
  · exact file.walkPrevious_eq kinds start stop exclude

end BlankLines.TokenFile
