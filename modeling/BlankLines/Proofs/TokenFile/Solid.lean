import BlankLines.Proofs.TokenFile.Search
import Mathlib.Tactic.ByContra

/-!
The solid tokens of a file: those that are no white space, in order and with their positions. A search
that passes over white space goes from one solid token to the next.
-/
namespace BlankLines.TokenFile

/-- The tokens that are no white space, in order, each with its position. -/
def solids (file : TokenFile) : List (Token × Nat) :=
  file.tokens.zipIdx.filter fun (token, _) => !token.isWhitespace

/-- How many solid tokens stand before a position. -/
def rank (file : TokenFile) (position : Nat) : Nat :=
  (file.tokens.take position).countP (!·.isWhitespace)

variable {file : TokenFile} {k here there : Nat} {token next : Token}

theorem getElem?_filter_zipIdx {keep : α → Bool} {items : List α} {start k i : Nat} {x : α} :
    ((items.zipIdx start).filter (keep ·.1))[k]? = some (x, start + i) ↔
      items[i]? = some x ∧ keep x = true ∧ (items.take i).countP keep = k := by
  induction items generalizing start k i with
  | nil => simp
  | cons y rest ih =>
    have later (m : Nat) :
        ((rest.zipIdx (start + 1)).filter (keep ·.1))[m]? ≠ some (x, start) := by
      intro found
      have member := List.mem_of_getElem? found
      have low := List.le_snd_of_mem_zipIdx (List.mem_filter.mp member).1
      omega
    have tail (m j : Nat) := @ih (start + 1) m j
    simp only [show ∀ j, start + 1 + j = start + (j + 1) by omega] at tail
    rw [List.zipIdx_cons, List.filter_cons]
    cases i with
    | zero =>
      -- Later items stand at later positions, so only the first can be the one at the start.
      cases kept : keep y with
      | true =>
        cases k with
        | zero =>
          simp only [if_true, List.getElem?_cons_zero, Nat.add_zero, List.take_zero,
            List.countP_nil, Option.some.injEq, Prod.mk.injEq, and_true, iff_self_and]
          rintro rfl
          exact kept
        | succ k => simp [later]
      | false =>
        simp only [Bool.false_eq_true, if_false, Nat.add_zero, later, false_iff, not_and,
          List.getElem?_cons_zero, Option.some.injEq]
        rintro rfl taken
        exact absurd taken (by simp [kept])
    | succ j => cases kept : keep y <;> cases k <;> simp_all

theorem getElem?_solids : file.solids[k]? = some (token, here) ↔
    file.tokens[here]? = some token ∧ token.isWhitespace = false ∧ file.rank here = k := by
  have found := @getElem?_filter_zipIdx _ (!·.isWhitespace) file.tokens 0 k here token
  rw [Nat.zero_add] at found
  rwa [Bool.not_eq_true'] at found

theorem rank_mono {low high : Nat} (order : low ≤ high) : file.rank low ≤ file.rank high := by
  have whole : (file.tokens.take high).take low = file.tokens.take low := by
    rw [List.take_take, Nat.min_eq_left order]
  rw [rank, ← whole]
  exact List.Sublist.countP_le (List.take_sublist _ _)

theorem rank_succ (found : file.tokens[here]? = some token) (solid : token.isWhitespace = false) :
    file.rank (here + 1) = file.rank here + 1 := by
  simp [rank, List.take_add_one, found, solid, List.countP_append]

theorem rank_eq_of_blank {low high : Nat} (order : low ≤ high)
    (blank : ∀ position, low ≤ position → position < high →
      ∀ token, file.tokens[position]? = some token → token.isWhitespace = true) :
    file.rank high = file.rank low := by
  induction high with
  | zero => rw [Nat.le_zero.mp order]
  | succ high ih =>
    rcases Nat.lt_or_ge high low with below | within
    · rw [Nat.le_antisymm order below]
    · rw [← ih within fun position above below => blank position above (by omega)]
      cases found : file.tokens[high]? with
      | none => simp [rank, List.take_add_one, found]
      | some token =>
        have white := blank high within (by omega) token found
        simp [rank, List.take_add_one, found, white, List.countP_append]

theorem between_solids (first : file.solids[k]? = some (token, here))
    (second : file.solids[k + 1]? = some (next, there)) :
    here < there ∧ ∀ position, here < position → position < there →
      ∀ other, file.tokens[position]? = some other → other.isWhitespace = true := by
  obtain ⟨found, solid, rankHere⟩ := getElem?_solids.mp first
  obtain ⟨_, _, rankThere⟩ := getElem?_solids.mp second
  have step := rank_succ found solid
  have order : here < there := by
    by_contra reversed
    have := file.rank_mono (Nat.le_of_not_lt reversed)
    omega
  refine ⟨order, ?_⟩
  intro position above below other found'
  by_contra solid'
  have step' := rank_succ found' (by simpa using solid')
  have low := file.rank_mono (show here + 1 ≤ position from above)
  have high := file.rank_mono (show position + 1 ≤ there from below)
  omega

/-- A solid token with only white space before it, back to another one, is the next one. -/
theorem next_solid (first : file.solids[k]? = some (token, here)) (order : here < there)
    (found : file.tokens[there]? = some next) (solid : next.isWhitespace = false)
    (blank : ∀ position, here < position → position < there →
      ∀ other, file.tokens[position]? = some other → other.isWhitespace = true) :
    file.solids[k + 1]? = some (next, there) := by
  obtain ⟨foundHere, solidHere, rankHere⟩ := getElem?_solids.mp first
  have step := rank_succ foundHere solidHere
  have same : file.rank there = file.rank (here + 1) := rank_eq_of_blank order blank
  exact getElem?_solids.mpr ⟨found, solid, by omega⟩

theorem isWanted_kind {kind : TokenKind} : isWanted [kind] false token = true ↔ token.kind = kind := by
  simp [isWanted]

@[simp] theorem isWanted_white : isWanted [.whitespace] true token = !token.isWhitespace := by
  cases token with
  | mk kind => cases kind <;> rfl

end BlankLines.TokenFile
