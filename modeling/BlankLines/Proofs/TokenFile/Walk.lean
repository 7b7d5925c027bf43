import BlankLines.Proofs.TokenFile.Search

/-!
Searches carried out position by position. Reading where there is no token is a failure here, while the
searches of a file cannot fail. Both find the same, so no search leaves the file.
-/
namespace BlankLines

/-- Something was read at a position where there is nothing. -/
structure OutOfRange where
  position : Nat
deriving Repr, DecidableEq

namespace TokenFile

def tokenAt (file : TokenFile) (position : Nat) : Except OutOfRange Token :=
  match file.tokens[position]? with
  | some token => .ok token
  | none => .error ⟨position⟩

/-- The first of some positions whose token is wanted. -/
def walk (file : TokenFile) (wanted : Token → Bool) : List Nat → Except OutOfRange (Option Nat)
  | [] => .ok none
  | position :: rest => do
    let token ← file.tokenAt position
    if wanted token then return some position else file.walk wanted rest

/-- The first wanted position from `start` up to, and without, `stop` or the end of the file. -/
def walkNext (file : TokenFile) (kinds : List TokenKind) (start : Nat) (stop : Option Nat)
    (exclude : Bool) : Except OutOfRange (Option Nat) :=
  let stop := min (stop.getD file.tokens.length) file.tokens.length
  file.walk (isWanted kinds exclude) (List.range' start (stop - start))

/-- The first wanted position from `start`, or the end of the file, down to and with `stop`. -/
def walkPrevious (file : TokenFile) (kinds : List TokenKind) (start : Nat) (stop : Option Nat)
    (exclude : Bool) : Except OutOfRange (Option Nat) :=
  if file.tokens.isEmpty then .ok none
  else
    let start := min start (file.tokens.length - 1)
    let stop := stop.getD 0
    if start < stop then .ok none
    else file.walk (isWanted kinds exclude) (List.range' stop (start - stop + 1)).reverse

variable {file : TokenFile} {kinds : List TokenKind} {exclude : Bool} {wanted : Token → Bool}
  {positions : List Nat}

theorem walk_eq (inside : ∀ position ∈ positions, position < file.tokens.length) :
    file.walk wanted positions = .ok (positions.find? fun position =>
      file.tokens[position]?.any wanted) := by
  induction positions with
  | nil => rfl
  | cons position rest ih =>
    obtain ⟨here, later⟩ := List.forall_mem_cons.mp inside
    have read : file.tokenAt position = .ok file.tokens[position] := by
      rw [tokenAt, List.getElem?_eq_getElem here]
    have tells : file.tokens[position]?.any wanted = wanted file.tokens[position] := by
      rw [List.getElem?_eq_getElem here, Option.any_some]
    rw [walk, read, List.find?_cons, tells, ih later]
    change (if wanted file.tokens[position] = true then Except.ok (some position) else Except.ok _) = _
    cases wanted file.tokens[position] <;> rfl

theorem walkNext_eq (file : TokenFile) (kinds : List TokenKind) (start : Nat) (stop : Option Nat)
    (exclude : Bool) :
    file.walkNext kinds start stop exclude = .ok (file.findNext kinds start stop exclude) := by
  rw [walkNext, walk_eq fun position member => by rw [List.mem_range'_1] at member; omega]
  congr 1
  refine Option.ext fun found => ?_
  rw [List.find?_range'_eq_some, findNext_eq_some_iff, List.mem_range'_1]
  simp only [Option.any_eq_true, Bool.not_eq_true', Option.any_eq_false]
  constructor
  · rintro ⟨here, ⟨above, below⟩, before⟩
    refine ⟨above, ?_, here, before⟩
    rintro bound rfl
    rw [Option.getD_some] at below
    omega
  · rintro ⟨above, inside, ⟨token, here, hit⟩, before⟩
    obtain ⟨bound, _⟩ := List.getElem?_eq_some_iff.mp here
    refine ⟨⟨token, here, hit⟩, ⟨above, ?_⟩, before⟩
    cases stop with
    | none => rw [Option.getD_none]; omega
    | some stop =>
      have inside := inside stop rfl
      rw [Option.getD_some]
      omega

/-- Going down, the first that is found is the greatest of all that fit. -/
theorem find?_eq_some_iff_of_descending {p : Nat → Bool} {items : List Nat} {found : Nat}
    (descending : items.Pairwise (· > ·)) : items.find? p = some found ↔
      p found = true ∧ found ∈ items ∧ ∀ item ∈ items, found < item → p item = false := by
  rw [List.find?_eq_some_iff_append]
  refine and_congr_right fun fits => ⟨?_, fun ⟨member, before⟩ => ?_⟩
  · rintro ⟨above, below, rfl, passed⟩
    refine ⟨by simp, fun item member greater => ?_⟩
    rcases List.mem_append.mp member with early | late
    · simpa using passed item early
    · rcases List.mem_cons.mp late with rfl | later
      · exact absurd greater (Nat.lt_irrefl item)
      · have less := List.rel_of_pairwise_cons (List.pairwise_append.mp descending).2.1 later
        exact absurd greater (Nat.lt_asymm less)
  · obtain ⟨above, below, rfl⟩ := List.append_of_mem member
    refine ⟨above, below, rfl, fun item early => ?_⟩
    have greater := (List.pairwise_append.mp descending).2.2 item early found List.mem_cons_self
    simpa using before item (List.mem_append_left _ early) greater

theorem walkPrevious_eq (file : TokenFile) (kinds : List TokenKind) (start : Nat) (stop : Option Nat)
    (exclude : Bool) :
    file.walkPrevious kinds start stop exclude =
      .ok (file.findPrevious kinds start stop exclude) := by
  have none_of (outside : ∀ found, stop.getD 0 ≤ found → found ≤ start →
      ¬ found < file.tokens.length) : file.findPrevious kinds start stop exclude = none := by
    refine Option.eq_none_iff_forall_ne_some.mpr fun found search => ?_
    obtain ⟨above, below, ⟨token, here, _⟩, _⟩ := findPrevious_eq_some_iff.mp search
    exact outside found above below (List.getElem?_eq_some_iff.mp here).1
  rw [walkPrevious]
  split
  · next empty =>
    have size : file.tokens.length = 0 := by rw [List.isEmpty_iff.mp empty, List.length_nil]
    rw [none_of (by omega)]
  · next nonempty =>
    have size : file.tokens.length ≠ 0 := by simpa [List.isEmpty_iff] using nonempty
    dsimp only
    split
    · next crossed => rw [none_of (by omega)]
    · next order =>
      have descending : (List.range' (stop.getD 0)
          (min start (file.tokens.length - 1) - stop.getD 0 + 1)).reverse.Pairwise (· > ·) :=
        List.pairwise_reverse.mpr (List.pairwise_lt_range' 1)
      rw [walk_eq fun position member => by
        rw [List.mem_reverse, List.mem_range'_1] at member; omega]
      congr 1
      refine Option.ext fun found => ?_
      simp only [find?_eq_some_iff_of_descending descending, findPrevious_eq_some_iff,
        List.mem_reverse, List.mem_range'_1, Option.any_eq_true, Option.any_eq_false]
      constructor
      · rintro ⟨here, ⟨above, below⟩, later⟩
        refine ⟨above, by omega, here, fun position after upto token there => ?_⟩
        have inside := (List.getElem?_eq_some_iff.mp there).1
        exact later position (by omega) after token there
      · rintro ⟨above, below, ⟨token, here, hit⟩, later⟩
        have inside := (List.getElem?_eq_some_iff.mp here).1
        refine ⟨⟨token, here, hit⟩, by omega, fun position member after => ?_⟩
        exact later position after (by omega)

end TokenFile

end BlankLines
