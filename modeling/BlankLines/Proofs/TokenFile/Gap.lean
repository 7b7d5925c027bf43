import BlankLines.Gap
import BlankLines.Proofs.TokenFile.Code

/-!
Gaps between neighbouring solid tokens. They share no position, corrections elsewhere do not change the
line endings of a gap, and its repair leaves it with exactly the blank lines that are wanted.
-/
namespace BlankLines.TokenFile

/-- A solid token and the next one stand at these positions. -/
def Adjoin (file : TokenFile) (low high : Nat) : Prop :=
  ∃ k first last, file.solids[k]? = some (first, low) ∧ file.solids[k + 1]? = some (last, high)

def solidAt (file : TokenFile) (position : Nat) : Bool :=
  file.tokens[position]?.any (!·.isWhitespace)

/-- Solid tokens of two files, with as many solid tokens before the one as before the other. -/
structure Abreast (file file' : TokenFile) (position position' : Nat) : Prop where
  solid : file.solidAt position = true
  solid' : file'.solidAt position' = true
  rank : file'.rank position' = file.rank position

def inGap (low high position : Nat) : Bool :=
  low ≤ position ∧ position < high

/-- The corrections that leave a gap with the blank lines that are wanted. Missing ones are added at a
token of the gap. -/
def repairAt (file : TokenFile) (wanted anchor low high : Nat) : Changeset :=
  gapRepair ((∑ position ∈ Finset.Ico low high, file.breaksOf position : Nat) - 1) wanted anchor
    (file.lineBreaks (low + 1) high)

/-- The repair that adds missing lines right behind the first token. -/
def repairGap (file : TokenFile) (wanted low high : Nat) : Changeset :=
  file.repairAt wanted low low high

variable {file file' : TokenFile} {corrections other : List Correction}
  {wanted anchor low low' high high' position position' : Nat}

theorem Adjoin.order (gap : file.Adjoin low high) : low < high := by
  obtain ⟨k, first, last, begins, ends⟩ := gap
  exact (between_solids begins ends).1

theorem Adjoin.blank (gap : file.Adjoin low high) : file.BlankFrom (low + 1) high := by
  obtain ⟨k, first, last, begins, ends⟩ := gap
  intro position above below
  exact (between_solids begins ends).2 position above below

theorem Adjoin.eq_low (gap : file.Adjoin low high) {k : Nat} {token : Token}
    (found : file.solids[k]? = some (token, position)) (above : low ≤ position)
    (below : position < high) : position = low := by
  obtain ⟨here, solid, _⟩ := getElem?_solids.mp found
  by_contra inside
  have white := gap.blank position (by omega) below token here
  simp [solid] at white

/-- A token holds one line ending at most. -/
theorem LaidOut.breaksOf_le_one (laidOut : file.LaidOut) (position : Nat) :
    file.breaksOf position ≤ 1 := by
  cases found : file.tokens[position]? with
  | none =>
    rw [breaksOf, found]
    exact Nat.zero_le 1
  | some token =>
    have closing := laidOut.closing token (List.mem_of_getElem? found)
    rw [breaksOf, found, Option.elim_some, breaksIn,
      Text.breakCount_of_onlyAtEnd laidOut.mark_ne closing]
    split <;> omega

/-- Gaps that share a position are the same gap. -/
theorem Adjoin.eq_of_meet {low' high' : Nat} (gap : file.Adjoin low high)
    (gap' : file.Adjoin low' high') (above : low ≤ position) (below : position < high)
    (above' : low' ≤ position) (below' : position < high') : low' = low ∧ high' = high := by
  have gaps := And.intro gap gap'
  obtain ⟨⟨k, first, last, begins, ends⟩, ⟨k', first', last', begins', ends'⟩⟩ := gaps
  have same : low' = low := by
    rcases Nat.le_total low low' with order | order
    · exact gap.eq_low begins' order (by omega)
    · exact (gap'.eq_low begins order (by omega)).symm
  subst same
  obtain ⟨_, _, rank⟩ := getElem?_solids.mp begins
  obtain ⟨_, _, rank'⟩ := getElem?_solids.mp begins'
  obtain rfl : k = k' := rank.symm.trans rank'
  rw [ends, Option.some.injEq, Prod.mk.injEq] at ends'
  exact ⟨rfl, ends'.2.symm⟩

theorem solidAt_iff : file.solidAt position = true ↔
    ∃ token, file.tokens[position]? = some token ∧ token.isWhitespace = false := by
  simp only [solidAt, Option.any_eq_true, Bool.not_eq_true']

theorem solidAt_iff_solids : file.solidAt position = true ↔
    ∃ (k : Nat) (token : Token), file.solids[k]? = some (token, position) := by
  rw [solidAt_iff]
  constructor
  · rintro ⟨token, found, solid⟩
    exact ⟨_, token, getElem?_solids.mpr ⟨found, solid, rfl⟩⟩
  · rintro ⟨k, token, found⟩
    obtain ⟨here, solid, _⟩ := getElem?_solids.mp found
    exact ⟨token, here, solid⟩

theorem rank_lt_iff (solid : file.solidAt low = true) : file.rank low < file.rank high ↔ low < high := by
  obtain ⟨token, found, isSolid⟩ := solidAt_iff.mp solid
  have step := rank_succ found isSolid
  constructor
  · intro before
    by_contra reversed
    have := file.rank_mono (Nat.le_of_not_lt reversed)
    omega
  · intro order
    have := file.rank_mono (show low + 1 ≤ high from order)
    omega

theorem rank_inj (solid : file.solidAt low = true) (solid' : file.solidAt high = true)
    (same : file.rank low = file.rank high) : low = high := by
  have := @rank_lt_iff _ _ high solid
  have := @rank_lt_iff _ _ low solid'
  omega

theorem breaksAt_of_solidAt (solid : file.solidAt position = true) :
    file.breaksAt position = false := by
  obtain ⟨token, found, isSolid⟩ := solidAt_iff.mp solid
  rw [breaksAt, found, Option.any_some, isSolid, Bool.false_and]

/-- No line break is at a solid token. -/
theorem lineBreaks_succ (solid : file.solidAt low = true) (high : Nat) :
    file.lineBreaks (low + 1) high = file.lineBreaks low high := by
  have single : file.lineBreaks low (low + 1) = [] := by
    simp [lineBreaks_eq, breaksAt_of_solidAt solid]
  rcases Nat.lt_or_ge low high with before | behind
  · rw [← lineBreaks_append file (Nat.le_succ low) before, single, List.nil_append]
  · simp [lineBreaks_eq, Nat.sub_eq_zero_of_le behind, Nat.sub_eq_zero_of_le (Nat.le_succ_of_le behind)]

theorem adjoin_iff : file.Adjoin low high ↔ file.solidAt low = true ∧ file.solidAt high = true ∧
    low < high ∧ file.BlankFrom (low + 1) high := by
  constructor
  · intro gap
    refine ⟨?_, ?_, gap.order, gap.blank⟩
    all_goals
      obtain ⟨k, first, last, begins, ends⟩ := gap
      obtain ⟨here, solidHere, _⟩ := getElem?_solids.mp begins
      obtain ⟨there, solidThere, _⟩ := getElem?_solids.mp ends
      rw [solidAt_iff]
    · exact ⟨first, here, solidHere⟩
    · exact ⟨last, there, solidThere⟩
  · rintro ⟨solidLow, solidHigh, order, blank⟩
    obtain ⟨first, here, solidHere⟩ := solidAt_iff.mp solidLow
    obtain ⟨last, there, solidThere⟩ := solidAt_iff.mp solidHigh
    have begins := getElem?_solids.mpr ⟨here, solidHere, rfl⟩
    exact ⟨_, first, last, begins, next_solid begins order there solidThere
      fun position above below => blank position above below⟩

theorem adjoin_iff_rank : file.Adjoin low high ↔ file.solidAt low = true ∧ file.solidAt high = true ∧
    file.rank high = file.rank low + 1 := by
  constructor
  · rintro ⟨k, first, last, begins, ends⟩
    obtain ⟨_, _, rankLow⟩ := getElem?_solids.mp begins
    obtain ⟨_, _, rankHigh⟩ := getElem?_solids.mp ends
    exact ⟨solidAt_iff_solids.mpr ⟨k, first, begins⟩, solidAt_iff_solids.mpr ⟨k + 1, last, ends⟩,
      by omega⟩
  · rintro ⟨solidLow, solidHigh, next⟩
    obtain ⟨first, here, firstSolid⟩ := solidAt_iff.mp solidLow
    obtain ⟨last, there, lastSolid⟩ := solidAt_iff.mp solidHigh
    exact ⟨_, first, last, getElem?_solids.mpr ⟨here, firstSolid, rfl⟩,
      getElem?_solids.mpr ⟨there, lastSolid, next⟩⟩

theorem Abreast.symm (abreast : Abreast file file' position position') :
    Abreast file' file position' position :=
  ⟨abreast.solid', abreast.solid, abreast.rank.symm⟩

theorem Abreast.of_solids {k : Nat} {token token' : Token}
    (found : file.solids[k]? = some (token, position))
    (found' : file'.solids[k]? = some (token', position')) : Abreast file file' position position' where
  solid := solidAt_iff_solids.mpr ⟨k, token, found⟩
  solid' := solidAt_iff_solids.mpr ⟨k, token', found'⟩
  rank := by rw [(getElem?_solids.mp found).2.2, (getElem?_solids.mp found').2.2]

theorem Abreast.lt_iff (front : Abreast file file' low low') (back : Abreast file file' high high') :
    low' < high' ↔ low < high := by
  rw [← rank_lt_iff front.solid', ← rank_lt_iff front.solid, front.rank, back.rank]

theorem Abreast.eq_iff (front : Abreast file file' low low') (back : Abreast file file' high high') :
    low' = high' ↔ low = high := by
  have := front.lt_iff back
  have := back.lt_iff front
  omega

theorem Abreast.adjoin (front : Abreast file file' low low') (back : Abreast file file' high high')
    (gap : file.Adjoin low high) : file'.Adjoin low' high' := by
  obtain ⟨_, _, next⟩ := adjoin_iff_rank.mp gap
  exact adjoin_iff_rank.mpr ⟨front.solid', back.solid', by rw [front.rank, back.rank, next]⟩

theorem Adjoin.high_lt (gap : file.Adjoin low high) : high < file.tokens.length := by
  obtain ⟨_, solidHigh, _⟩ := adjoin_iff.mp gap
  obtain ⟨last, ends, _⟩ := solidAt_iff.mp solidHigh
  exact (List.getElem?_eq_some_iff.mp ends).1

/-- A solid token before the end of a gap is no later than its start. -/
theorem Adjoin.le_low (gap : file.Adjoin low high) (solid : file.solidAt position = true)
    (before : position < high) : position ≤ low := by
  obtain ⟨token, found, isSolid⟩ := solidAt_iff.mp solid
  by_contra inside
  have white := gap.blank position (Nat.lt_of_not_le inside) before token found
  rw [isSolid] at white
  exact Bool.noConfusion white

instance (file : TokenFile) (low high : Nat) : Decidable (file.Adjoin low high) :=
  decidable_of_iff _ adjoin_iff.symm

/-- A solid token with another one before it is the end of a gap, which the other one does not enter. -/
theorem exists_adjoin_before (solid : file.solidAt position = true)
    (solidHigh : file.solidAt high = true) (order : position < high) :
    ∃ low, file.Adjoin low high ∧ position ≤ low := by
  obtain ⟨j, first, found⟩ := solidAt_iff_solids.mp solid
  obtain ⟨k, last, ends⟩ := solidAt_iff_solids.mp solidHigh
  obtain ⟨here, firstSolid, rankHere⟩ := getElem?_solids.mp found
  obtain ⟨_, _, rankHigh⟩ := getElem?_solids.mp ends
  have step := rank_succ here firstSolid
  have above := file.rank_mono (show position + 1 ≤ high from order)
  obtain ⟨k, rfl⟩ := Nat.exists_eq_add_one_of_ne_zero (show k ≠ 0 by omega)
  obtain ⟨inside, _⟩ := List.getElem?_eq_some_iff.mp ends
  have begins := List.getElem?_eq_getElem (Nat.lt_of_succ_lt inside)
  refine ⟨_, ⟨k, _, last, begins, ends⟩, ?_⟩
  by_contra within
  have white := (between_solids begins ends).2 position (Nat.lt_of_not_le within) order first here
  simp [firstSolid] at white

theorem findNext_eq_some_iff_adjoin (solid : file.solidAt low = true) :
    file.findNext [.whitespace] (low + 1) none true = some high ↔ file.Adjoin low high := by
  simp only [findNext_eq_some_iff, adjoin_iff, solid, isWanted_white, Bool.not_eq_true',
    Bool.not_eq_false', reduceCtorEq, false_implies, implies_true, true_and, ← solidAt_iff]
  constructor
  · rintro ⟨order, found, blank⟩
    exact ⟨found, order, blank⟩
  · rintro ⟨found, order, blank⟩
    exact ⟨order, found, blank⟩

theorem findPrevious_eq_some_iff_adjoin (solid : file.solidAt high = true) (inside : high ≠ 0) :
    file.findPrevious [.whitespace] (high - 1) none true = some low ↔ file.Adjoin low high := by
  simp only [findPrevious_eq_some_iff, adjoin_iff, solid, isWanted_white, Bool.not_eq_true',
    Bool.not_eq_false', Option.getD_none, Nat.zero_le, true_and, ← solidAt_iff]
  constructor
  · rintro ⟨order, found, blank⟩
    exact ⟨found, by omega, fun position above below => blank position above (by omega)⟩
  · rintro ⟨found, order, blank⟩
    exact ⟨by omega, found, fun position above below => blank position above (by omega)⟩

theorem slotAt_congr {region : Nat → Bool} (token : Token)
    (same : corrections.filter (region ·.position) = other.filter (region ·.position))
    (inside : region position = true) :
    file.slotAt corrections position token = file.slotAt other position token := by
  have narrow (items : List Correction) : items.filter (·.position = position) =
      (items.filter (region ·.position)).filter (·.position = position) := by
    rw [List.filter_filter]
    apply List.filter_congr
    intro correction _
    by_cases here : correction.position = position <;> simp [here, inside]
  rw [slotAt, slotAt, narrow corrections, same, ← narrow other]

theorem breaksAfter_congr {region : Nat → Bool}
    (same : corrections.filter (region ·.position) = other.filter (region ·.position))
    (inside : region position = true) :
    file.breaksAfter corrections position = file.breaksAfter other position := by
  rw [breaksAfter, breaksAfter]
  congr 1
  funext token
  rw [slotAt_congr token same inside]

theorem breaksAfter_of_notMem (elsewhere : ∀ correction ∈ corrections,
    correction.position ≠ position) :
    file.breaksAfter corrections position = file.breaksOf position := by
  have none : corrections.filter (·.position = position) = [] := by
    rw [List.filter_eq_nil_iff]
    intro correction member
    simpa using elsewhere correction member
  rw [breaksAfter, breaksOf]
  congr 1
  funext token
  rw [slotAt, none, List.foldl_nil, Slot.breaks, ite_self, Nat.add_zero]
  rfl

/-- The line endings of a gap depend on the corrections in it alone. -/
theorem sum_breaksAfter_congr
    (same : corrections.filter (inGap low high ·.position) = other.filter (inGap low high ·.position)) :
    ∑ position ∈ Finset.Ico low high, file.breaksAfter corrections position =
      ∑ position ∈ Finset.Ico low high, file.breaksAfter other position :=
  Finset.sum_congr rfl fun _ member =>
    breaksAfter_congr same (decide_eq_true (Finset.mem_Ico.mp member))

@[simp] theorem breaksAfter_nil : file.breaksAfter [] = file.breaksOf :=
  funext fun _ => breaksAfter_of_notMem fun _ member => absurd member List.not_mem_nil

theorem breaksAfter_deletes (laidOut : file.LaidOut) {positions : List Nat}
    (member : position ∈ positions) :
    file.breaksAfter (positions.map .delete) position = 0 := by
  cases found : file.tokens[position]? with
  | none => rw [breaksAfter, found, Option.elim_none]
  | some token =>
    have deleted := any_isDelete_iff.mpr (List.mem_map_of_mem (f := Correction.delete) member)
    rw [laidOut.breaksAfter_eq found, deleted, if_pos rfl, lastingInserts_eq_zero]
    intro correction listed
    obtain ⟨place, _, rfl⟩ := List.mem_map.mp (List.mem_of_mem_filter listed)
    rfl

theorem sum_breaksAfter_deletes (laidOut : file.LaidOut) (gap : file.Adjoin low high)
    {positions : List Nat} (listed : positions.Sublist (file.lineBreaks (low + 1) high)) :
    ∑ position ∈ Finset.Ico low high, file.breaksAfter (positions.map .delete) position +
      positions.length = ∑ position ∈ Finset.Ico low high, file.breaksOf position := by
  have once : positions.Nodup := by
    have sorted := (lineBreaks_sorted file (low + 1) high).sublist listed
    exact sorted.imp fun before => Nat.ne_of_lt before
  have within : ∀ position ∈ positions, position ∈ Finset.Ico low high := by
    intro position member
    obtain ⟨above, below, _⟩ := mem_lineBreaks.mp (listed.subset member)
    exact Finset.mem_Ico.mpr ⟨by omega, below⟩
  have count : positions.length =
      ∑ position ∈ Finset.Ico low high, if position ∈ positions then 1 else 0 := by
    rw [← Finset.card_filter, ← List.toFinset_card_of_nodup once]
    congr 1
    ext position
    rw [List.mem_toFinset, Finset.mem_filter]
    exact ⟨fun member => ⟨within position member, member⟩, And.right⟩
  rw [count, ← Finset.sum_add_distrib]
  refine Finset.sum_congr rfl fun position _ => ?_
  by_cases member : position ∈ positions
  · obtain ⟨above, below, breaks⟩ := mem_lineBreaks.mp (listed.subset member)
    have one := laidOut.measured.breaksOf_blank (gap.blank position above below)
    rw [if_pos breaks] at one
    rw [breaksAfter_deletes laidOut member, if_pos member, one]
  · rw [breaksAfter_of_notMem ?_, if_neg member, Nat.add_zero]
    intro correction deleted
    obtain ⟨place, listed, rfl⟩ := List.mem_map.mp deleted
    rintro rfl
    exact member listed

/-- Insertions at one token of a region add as many line endings to it. -/
theorem sum_breaksAfter_inserts (laidOut : file.LaidOut) {token : Token}
    (found : file.tokens[anchor]? = some token) (above : low ≤ anchor) (below : anchor < high)
    (count : Nat) : ∑ position ∈ Finset.Ico low high,
        file.breaksAfter (List.replicate count (.insertNewline anchor)) position =
      ∑ position ∈ Finset.Ico low high, file.breaksOf position + count := by
  have added : ∀ position ∈ Finset.Ico low high,
      file.breaksAfter (List.replicate count (.insertNewline anchor)) position =
        file.breaksOf position + if position = anchor then count else 0 := by
    intro position _
    by_cases here : position = anchor
    · subst here
      have all : (List.replicate count (Correction.insertNewline position)).filter
          (·.position = position) = List.replicate count (.insertNewline position) := by
        rw [List.filter_eq_self]
        intro correction member
        rw [List.eq_of_mem_replicate member]
        exact decide_eq_true rfl
      rw [laidOut.breaksAfter_kept found (by simp), all, List.length_replicate, if_pos rfl]
    · rw [if_neg here, Nat.add_zero]
      refine breaksAfter_of_notMem fun correction inserted => ?_
      rw [List.eq_of_mem_replicate inserted]
      exact Ne.symm here
  rw [Finset.sum_congr rfl added, Finset.sum_add_distrib, Finset.sum_ite_eq',
    if_pos (Finset.mem_Ico.mpr ⟨above, below⟩)]

theorem repairAt_of_surplus
    (surplus : wanted + 1 < ∑ position ∈ Finset.Ico low high, file.breaksOf position) :
    file.repairAt wanted anchor low high = ((file.lineBreaks (low + 1) high).drop
      ((file.lineBreaks (low + 1) high).length -
        (∑ position ∈ Finset.Ico low high, file.breaksOf position - (wanted + 1)))).map .delete := by
  have size : ((∑ position ∈ Finset.Ico low high, file.breaksOf position : Nat) - 1 -
      (wanted : Int)).toNat =
        ∑ position ∈ Finset.Ico low high, file.breaksOf position - (wanted + 1) := by omega
  rw [repairAt, gapRepair, if_pos (by omega), size]

theorem repairAt_of_short
    (short : ∑ position ∈ Finset.Ico low high, file.breaksOf position ≤ wanted + 1) :
    file.repairAt wanted anchor low high = List.replicate
      (wanted + 1 - ∑ position ∈ Finset.Ico low high, file.breaksOf position)
      (.insertNewline anchor) := by
  have size : ((wanted : Int) - ((∑ position ∈ Finset.Ico low high, file.breaksOf position : Nat) -
      1)).toNat = wanted + 1 - ∑ position ∈ Finset.Ico low high, file.breaksOf position := by omega
  rw [repairAt, gapRepair, if_neg (by omega), size]

/-- A repair deletes line breaks of the gap or adds lines at its anchor, never both. -/
theorem mem_repairAt {correction : Correction}
    (member : correction ∈ file.repairAt wanted anchor low high) :
    (wanted + 1 < ∑ position ∈ Finset.Ico low high, file.breaksOf position ∧
      ∃ place ∈ file.lineBreaks (low + 1) high, correction = .delete place) ∨
    (∑ position ∈ Finset.Ico low high, file.breaksOf position < wanted + 1 ∧
      correction = .insertNewline anchor) := by
  rcases Nat.lt_or_ge (wanted + 1) (∑ position ∈ Finset.Ico low high, file.breaksOf position)
    with surplus | short
  · rw [repairAt_of_surplus surplus] at member
    obtain ⟨place, listed, rfl⟩ := List.mem_map.mp member
    exact .inl ⟨surplus, place, List.mem_of_mem_drop listed, rfl⟩
  · rw [repairAt_of_short short, List.mem_replicate] at member
    exact .inr ⟨by omega, member.2⟩

/-- A repaired gap has one line ending and a further one for each blank line that is wanted. -/
theorem sum_breaksAfter_repairAt (laidOut : file.LaidOut) (gap : file.Adjoin low high)
    (above : low ≤ anchor) (below : anchor < high) (wanted : Nat) :
    ∑ position ∈ Finset.Ico low high,
      file.breaksAfter (file.repairAt wanted anchor low high) position = wanted + 1 := by
  have found := List.getElem?_eq_getElem (below.trans gap.high_lt)
  rcases Nat.lt_or_ge (wanted + 1) (∑ position ∈ Finset.Ico low high, file.breaksOf position)
    with surplus | short
  · have few := laidOut.breaksOf_le_one low
    have size := laidOut.measured.length_lineBreaks (show low + 1 ≤ high from gap.order) gap.blank
    have total := Finset.sum_eq_sum_Ico_succ_bot gap.order file.breaksOf
    have blanked := sum_breaksAfter_deletes laidOut gap (List.drop_sublist
      ((file.lineBreaks (low + 1) high).length -
        (∑ position ∈ Finset.Ico low high, file.breaksOf position - (wanted + 1)))
      (file.lineBreaks (low + 1) high))
    rw [List.length_drop] at blanked
    rw [repairAt_of_surplus surplus]
    omega
  · rw [repairAt_of_short short, sum_breaksAfter_inserts laidOut found above below]
    omega

theorem repairAt_ne_nil (laidOut : file.LaidOut) (gap : file.Adjoin low high)
    (wrong : ∑ position ∈ Finset.Ico low high, file.breaksOf position ≠ wanted + 1) :
    file.repairAt wanted anchor low high ≠ [] := by
  rcases Nat.lt_or_gt_of_ne wrong with short | surplus
  · rw [repairAt_of_short (Nat.le_of_lt short), ne_eq, List.replicate_eq_nil_iff]
    omega
  · -- The deletions are the same wherever lines would be added, and at the first token they do repair.
    intro empty
    have same : file.repairAt wanted low low high = [] := by
      rw [repairAt_of_surplus surplus] at empty ⊢
      exact empty
    have right := sum_breaksAfter_repairAt laidOut gap (Nat.le_refl low) gap.order wanted
    rw [same, breaksAfter_nil] at right
    exact wrong right

theorem inGap_of_repairAt (above : low ≤ anchor) (below : anchor < high) (wanted : Nat) :
    ∀ correction ∈ file.repairAt wanted anchor low high,
      inGap low high correction.position = true := by
  intro correction member
  rw [inGap, decide_eq_true_eq]
  rcases mem_repairAt member with ⟨_, place, listed, rfl⟩ | ⟨_, rfl⟩
  · obtain ⟨after, before, _⟩ := mem_lineBreaks.mp listed
    exact ⟨Nat.le_of_succ_le after, before⟩
  · exact ⟨above, below⟩

theorem repairGap_ne_nil (laidOut : file.LaidOut) (gap : file.Adjoin low high)
    (wrong : ∑ position ∈ Finset.Ico low high, file.breaksOf position ≠ wanted + 1) :
    file.repairGap wanted low high ≠ [] :=
  repairAt_ne_nil laidOut gap wrong

theorem inGap_of_repairGap (gap : file.Adjoin low high) (wanted : Nat) :
    ∀ correction ∈ file.repairGap wanted low high, inGap low high correction.position = true :=
  inGap_of_repairAt (Nat.le_refl low) gap.order wanted

theorem Adjoin.lineDelta_eq (gap : file.Adjoin low high) (laidOut : file.LaidOut)
    (small : file.LinesBelow Word.half) {first last : Token}
    (begins : file.tokens[low]? = some first) (ends : file.tokens[high]? = some last) :
    last.lineDelta first = (∑ position ∈ Finset.Ico low high, file.breaksOf position : Nat) := by
  have total := laidOut.measured.counted.line_add (Nat.le_of_lt gap.order) begins ends
  rw [small.lineDelta_eq begins ends]
  omega

theorem Adjoin.of_revise {low' high' : Nat} (gap : (file.revise corrections).Adjoin low' high') :
    ∃ low high, file.Adjoin low high ∧ low' = file.moved corrections low ∧
      high' = file.moved corrections high := by
  obtain ⟨k, first', last', begins, ends⟩ := gap
  obtain ⟨first, low, foundLow, rfl, _⟩ := exists_of_solids_revise begins
  obtain ⟨last, high, foundHigh, rfl, _⟩ := exists_of_solids_revise ends
  exact ⟨low, high, ⟨k, first, last, foundLow, foundHigh⟩, rfl, rfl⟩

/-- Solid tokens stay abreast of what becomes of them. -/
theorem abreast_moved (solid : file.solidAt position = true) (corrections : List Correction) :
    Abreast file (file.revise corrections) position (file.moved corrections position) := by
  obtain ⟨k, token, found⟩ := solidAt_iff_solids.mp solid
  exact .of_solids found (solids_revise corrections found)

theorem Adjoin.revise (gap : file.Adjoin low high) (corrections : List Correction) :
    (file.revise corrections).Adjoin (file.moved corrections low) (file.moved corrections high) := by
  obtain ⟨solidLow, solidHigh, _⟩ := adjoin_iff.mp gap
  exact (abreast_moved solidLow corrections).adjoin (abreast_moved solidHigh corrections) gap

theorem moved_lt_iff (solidLow : file.solidAt low = true) (solidHigh : file.solidAt high = true) :
    file.moved corrections low < file.moved corrections high ↔ low < high :=
  (abreast_moved solidLow corrections).lt_iff (abreast_moved solidHigh corrections)

/-- Solid tokens stay in their order. -/
theorem moved_lt (solidLow : file.solidAt low = true) (solidHigh : file.solidAt high = true)
    (order : low < high) : file.moved corrections low < file.moved corrections high :=
  (moved_lt_iff solidLow solidHigh).mpr order

/-- Two solid tokens do not come to stand at one place. -/
theorem moved_inj (solidLow : file.solidAt low = true) (solidHigh : file.solidAt high = true)
    (same : file.moved corrections low = file.moved corrections high) : low = high :=
  ((abreast_moved solidLow corrections).eq_iff (abreast_moved solidHigh corrections)).mp same

theorem Adjoin.exists_of_revise {high' : Nat} (solid : file.solidAt low = true)
    (gap : (file.revise corrections).Adjoin (file.moved corrections low) high') :
    ∃ high, file.Adjoin low high ∧ high' = file.moved corrections high := by
  obtain ⟨place, high, original, same, rfl⟩ := gap.of_revise
  obtain rfl := moved_inj solid (adjoin_iff.mp original).1 same
  exact ⟨high, original, rfl⟩

/-- A solid token that is not deleted keeps its line ending. -/
theorem breaksOf_moved (solid : file.solidAt position = true) (kept : .delete position ∉ corrections) :
    (file.revise corrections).breaksOf (file.moved corrections position) =
      file.breaksOf position := by
  obtain ⟨token, found, solidToken⟩ := solidAt_iff.mp solid
  rw [breaksOf, breaksOf, getElem?_revise corrections found solidToken, found,
    slotAt_solid solidToken kept]
  rfl

/-- The line endings between two solid tokens of a revision are those that the corrections leave. -/
theorem LaidOut.sum_breaksOf_revise (laidOut : file.LaidOut) (solidLow : file.solidAt low = true)
    (solidHigh : file.solidAt high = true) (order : low ≤ high) (corrections : List Correction) :
    ∑ position ∈ Finset.Ico (file.moved corrections low) (file.moved corrections high),
        (file.revise corrections).breaksOf position =
      ∑ position ∈ Finset.Ico low high, file.breaksAfter corrections position := by
  obtain ⟨j, first, begins⟩ := solidAt_iff_solids.mp solidLow
  obtain ⟨k, last, ends⟩ := solidAt_iff_solids.mp solidHigh
  obtain ⟨here, firstSolid, _⟩ := getElem?_solids.mp begins
  obtain ⟨there, lastSolid, _⟩ := getElem?_solids.mp ends
  obtain ⟨here', _, _⟩ := getElem?_solids.mp (solids_revise corrections begins)
  obtain ⟨there', _, _⟩ := getElem?_solids.mp (solids_revise corrections ends)
  have order' : file.moved corrections low ≤ file.moved corrections high := by
    rcases Nat.eq_or_lt_of_le order with rfl | before
    · exact Nat.le_refl _
    · exact Nat.le_of_lt (moved_lt solidLow solidHigh before)
  have lines := (laidOut.revise corrections).measured.counted.line_add order' here' there'
  have lines' := movedLine_add corrections laidOut.eol_ne order here there firstSolid lastSolid
  simp only at lines
  omega

theorem Adjoin.sum_breaksOf_revise (gap : file.Adjoin low high) (laidOut : file.LaidOut)
    (corrections : List Correction) :
    ∑ position ∈ Finset.Ico (file.moved corrections low) (file.moved corrections high),
        (file.revise corrections).breaksOf position =
      ∑ position ∈ Finset.Ico low high, file.breaksAfter corrections position := by
  obtain ⟨solidLow, solidHigh, order, _⟩ := adjoin_iff.mp gap
  exact laidOut.sum_breaksOf_revise solidLow solidHigh (Nat.le_of_lt order) corrections

/-- Corrections that blank only spare line breaks leave no two tokens on one line that were not. -/
theorem LaidOut.unbroken_of_revise (laidOut : file.LaidOut)
    (spared : ∀ position, .delete position ∈ corrections → file.Spare position)
    (solidLow : file.solidAt low = true) (solidHigh : file.solidAt high = true) (order : low ≤ high)
    (unbroken : ∑ position ∈ Finset.Ico (file.moved corrections low) (file.moved corrections high),
      (file.revise corrections).breaksOf position = 0) :
    ∑ position ∈ Finset.Ico low high, file.breaksOf position = 0 := by
  rw [laidOut.sum_breaksOf_revise solidLow solidHigh order] at unbroken
  by_contra broken
  obtain ⟨first, begins, firstSolid⟩ := solidAt_iff.mp solidLow
  exact (laidOut.sum_breaksAfter_pos spared begins firstSolid (Nat.pos_of_ne_zero broken)).ne' unbroken

end BlankLines.TokenFile
