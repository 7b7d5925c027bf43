import BlankLines.TokenFile.Search

/-!
The searches meet their words: each finds the nearest position that is looked for, and passes over none
on the way. Lists of line breaks are the positions of white space that holds a line ending, in order.
-/
namespace BlankLines.TokenFile

variable {file : TokenFile} {kinds : List TokenKind} {exclude : Bool}

theorem findIdx?_drop_eq_some_iff {wanted : Token → Bool} {tokens : List Token} {start found : Nat} :
    ((tokens.drop start).findIdx? wanted).map (start + ·) = some found ↔
      start ≤ found ∧ (∃ token, tokens[found]? = some token ∧ wanted token = true) ∧
      ∀ position, start ≤ position → position < found →
        ∀ token, tokens[position]? = some token → wanted token = false := by
  simp only [Option.map_eq_some_iff, List.findIdx?_eq_some_iff_getElem, List.getElem_drop,
    List.length_drop]
  constructor
  · rintro ⟨offset, ⟨inside, hit, before⟩, rfl⟩
    refine ⟨by omega, ⟨_, List.getElem?_eq_getElem (by omega), hit⟩, ?_⟩
    intro position from_start earlier token here
    obtain ⟨bound, rfl⟩ := List.getElem?_eq_some_iff.mp here
    have miss := before (position - start) (by omega)
    simpa only [Nat.add_sub_cancel' from_start, Bool.not_eq_true] using miss
  · rintro ⟨from_start, ⟨token, here, hit⟩, before⟩
    obtain ⟨bound, rfl⟩ := List.getElem?_eq_some_iff.mp here
    refine ⟨found - start, ⟨by omega, ?_, ?_⟩, by omega⟩
    · simpa only [Nat.add_sub_cancel' from_start] using hit
    · intro offset earlier
      have miss := before (start + offset) (by omega) (by omega) _ (List.getElem?_eq_getElem (by omega))
      simpa only [Bool.not_eq_true] using miss

theorem findNext_eq_some_iff {start found : Nat} {stop : Option Nat} :
    file.findNext kinds start stop exclude = some found ↔
      start ≤ found ∧ (∀ bound, stop = some bound → found < bound) ∧
      (∃ token, file.tokens[found]? = some token ∧ isWanted kinds exclude token = true) ∧
      ∀ position, start ≤ position → position < found →
        ∀ token, file.tokens[position]? = some token → isWanted kinds exclude token = false := by
  cases stop with
  | none => simp only [findNext, findIdx?_drop_eq_some_iff, reduceCtorEq, false_implies,
      implies_true, true_and]
  | some bound =>
    simp only [findNext, findIdx?_drop_eq_some_iff, List.getElem?_take, Option.some.injEq]
    constructor
    · rintro ⟨from_start, ⟨token, here, hit⟩, before⟩
      by_cases inside : found < bound
      · simp only [inside, if_true] at here
        refine ⟨from_start, by rintro _ rfl; exact inside, ⟨token, here, hit⟩, ?_⟩
        intro position late early other there
        exact before position late early other (by rw [if_pos (by omega), there])
      · simp [inside] at here
    · rintro ⟨from_start, inside, ⟨token, here, hit⟩, before⟩
      have inside := inside bound rfl
      refine ⟨from_start, ⟨token, by rw [if_pos inside, here], hit⟩, ?_⟩
      intro position late early other there
      rw [if_pos (by omega)] at there
      exact before position late early other there

theorem findPrevious_eq_some_iff {start found : Nat} {stop : Option Nat} :
    file.findPrevious kinds start stop exclude = some found ↔
      stop.getD 0 ≤ found ∧ found ≤ start ∧
      (∃ token, file.tokens[found]? = some token ∧ isWanted kinds exclude token = true) ∧
      ∀ position, found < position → position ≤ start →
        ∀ token, file.tokens[position]? = some token → isWanted kinds exclude token = false := by
  simp only [findPrevious, Option.map_eq_some_iff, List.findIdx?_eq_some_iff_getElem,
    List.getElem_reverse, List.getElem_drop, List.getElem_take, List.length_reverse,
    List.length_drop, List.length_take]
  generalize stop.getD 0 = low
  constructor
  · rintro ⟨back, ⟨inside, hit, later⟩, rfl⟩
    refine ⟨by omega, by omega, ⟨_, List.getElem?_eq_getElem (by omega), hit⟩, ?_⟩
    intro position above below token here
    obtain ⟨bound, rfl⟩ := List.getElem?_eq_some_iff.mp here
    have miss := later (min (start + 1) file.tokens.length - low - 1 - (position - low)) (by omega)
    have same : low + (min (start + 1) file.tokens.length - low - 1 -
        (min (start + 1) file.tokens.length - low - 1 - (position - low))) = position := by omega
    simpa only [same, Bool.not_eq_true] using miss
  · rintro ⟨above, below, ⟨token, here, hit⟩, later⟩
    obtain ⟨bound, rfl⟩ := List.getElem?_eq_some_iff.mp here
    have same : low + (min (start + 1) file.tokens.length - low - 1 -
        (min (start + 1) file.tokens.length - low - 1 - (found - low))) = found := by omega
    refine ⟨min (start + 1) file.tokens.length - low - 1 - (found - low),
      ⟨by omega, by simpa only [same] using hit, ?_⟩, same⟩
    intro back near
    have miss := later (low + (min (start + 1) file.tokens.length - low - 1 - back))
      (by omega) (by omega) _ (List.getElem?_eq_getElem (by omega))
    simpa only [Bool.not_eq_true] using miss

theorem findLineEnd_eq_some_iff {start found : Nat} :
    file.findLineEnd start = some found ↔
      start ≤ found ∧ (∃ token, file.tokens[found]? = some token ∧ file.endsLine token = true) ∧
      ∀ position, start ≤ position → position < found →
        ∀ token, file.tokens[position]? = some token → file.endsLine token = false :=
  findIdx?_drop_eq_some_iff

/-- Whether a position holds white space with a line ending. -/
def breaksAt (file : TokenFile) (position : Nat) : Bool :=
  file.tokens[position]?.any fun token => token.isWhitespace && file.endsLine token

theorem breaksAt_iff {position : Nat} : file.breaksAt position = true ↔
    ∃ token, file.tokens[position]? = some token ∧
      token.isWhitespace = true ∧ file.endsLine token = true := by
  simp only [breaksAt, Option.any_eq_true, Bool.and_eq_true]

theorem lineBreaks_eq (file : TokenFile) (start stop : Nat) :
    file.lineBreaks start stop = (List.range' start (stop - start)).filter file.breaksAt := by
  induction stop with
  | zero => simp [lineBreaks]
  | succ stop ih =>
    by_cases reached : start ≤ stop
    · rw [Nat.succ_sub reached, List.range'_concat, List.filter_append, ← ih]
      simp only [lineBreaks, List.take_add_one, Nat.one_mul, Nat.add_sub_cancel' reached]
      cases here : file.tokens[stop]? with
      | none => simp [breaksAt, here]
      | some token =>
        obtain ⟨inside, _⟩ := List.getElem?_eq_some_iff.mp here
        have size : (file.tokens.take stop).length = stop := List.length_take_of_le (by omega)
        rw [Option.toList_some, List.drop_append_of_le_length (by omega), List.zipIdx_append,
          List.filterMap_append, List.length_drop, size, Nat.add_sub_cancel' reached]
        have known : file.breaksAt stop = (token.isWhitespace && file.endsLine token) := by
          rw [breaksAt, here, Option.any_some]
        rw [List.filter_cons, known, List.zipIdx_singleton, List.filterMap_cons]
        cases token.isWhitespace && file.endsLine token <;> rfl
    · have empty : stop + 1 - start = 0 := by omega
      have none : (file.tokens.take (stop + 1)).drop start = [] :=
        List.drop_eq_nil_of_le (by simp only [List.length_take]; omega)
      simp [lineBreaks, none, empty]

theorem mem_lineBreaks {start stop position : Nat} : position ∈ file.lineBreaks start stop ↔
    start ≤ position ∧ position < stop ∧ file.breaksAt position = true := by
  rw [lineBreaks_eq, List.mem_filter, List.mem_range'_1, ← and_assoc]
  exact and_congr_left' (by omega)

theorem lineBreaks_sorted (file : TokenFile) (start stop : Nat) :
    (file.lineBreaks start stop).Pairwise (· < ·) := by
  rw [lineBreaks_eq]
  exact List.Pairwise.filter _ (List.pairwise_lt_range' 1)

theorem lineBreaks_append (file : TokenFile) {start middle stop : Nat} (low : start ≤ middle)
    (high : middle ≤ stop) :
    file.lineBreaks start middle ++ file.lineBreaks middle stop = file.lineBreaks start stop := by
  have join := @List.range'_append start (middle - start) (stop - middle) 1
  have sizes : middle - start + (stop - middle) = stop - start := by omega
  rw [Nat.one_mul, Nat.add_sub_cancel' low, sizes] at join
  rw [lineBreaks_eq, lineBreaks_eq, lineBreaks_eq, ← List.filter_append, join]

end BlankLines.TokenFile
