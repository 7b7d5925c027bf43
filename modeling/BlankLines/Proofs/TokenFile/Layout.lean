import BlankLines.Proofs.Text.Cut
import BlankLines.Proofs.TokenFile.Solid
import BlankLines.TokenFile.Layout

/-!
Where solid tokens stand after a layout and on which lines. A slot of a solid token is laid out as that
token and white space behind it, so the `k`-th solid slot becomes the `k`-th solid token, and as many
lines lie before it as the slots before it hold line endings.
-/
namespace BlankLines

/-- White space as a layout leaves it: it is not empty, no line ending is in it but at its very end, and
it has no scopes. -/
structure Token.Cut (eol : String) (token : Token) : Prop where
  nonempty : token.content ≠ ""
  closing : Text.OnlyAtEnd eol.toList token.content.toList
  opener : token.scopeOpener = none
  closer : token.scopeCloser = none

instance (eol : String) (token : Token) : Decidable (token.Cut eol) :=
  decidable_of_iff (token.content ≠ "" ∧ Text.OnlyAtEnd eol.toList token.content.toList ∧
      token.scopeOpener = none ∧ token.scopeCloser = none)
    ⟨fun ⟨nonempty, closing, opener, closer⟩ => ⟨nonempty, closing, opener, closer⟩,
      fun cut => ⟨cut.nonempty, cut.closing, cut.opener, cut.closer⟩⟩

namespace Slot

def breaks (eol : String) (slot : Slot) : Nat :=
  Text.breakCount eol.toList slot.token.content.toList +
    if slot.token.isWhitespace then 0 else slot.newlines

variable {eol : String} {slot : Slot}

theorem blankTokens_white {line : Nat} {contents : List String} :
    ∀ token ∈ blankTokens line contents, token.isWhitespace = true := by
  intro token member
  obtain ⟨pair, _, rfl⟩ := List.mem_map.mp member
  rfl

theorem blankTokens_contents (line : Nat) (contents : List String) :
    (blankTokens line contents).map (·.content) = contents := by
  simp [blankTokens, List.map_map, Function.comp_def]

theorem layout_white (white : slot.token.isWhitespace = true) :
    ∀ token ∈ slot.layout eol, token.isWhitespace = true := by
  simp only [layout, white, if_true]
  exact blankTokens_white

theorem layout_solid (eol : String) (solid : slot.token.isWhitespace = false) :
    ∃ rest, slot.layout eol = slot.token :: rest ∧ ∀ token ∈ rest, token.isWhitespace = true := by
  simp only [layout, solid]
  exact ⟨_, rfl, blankTokens_white⟩

theorem blankTokens_cut {line : Nat} {contents : List String} (nonempty : "" ∉ contents)
    (closing : ∀ content ∈ contents, Text.OnlyAtEnd eol.toList content.toList) :
    ∀ token ∈ blankTokens line contents, token.Cut eol := by
  intro token member
  have listed := List.mem_map_of_mem (f := (·.content)) member
  rw [blankTokens_contents] at listed
  obtain ⟨pair, _, rfl⟩ := List.mem_map.mp member
  exact ⟨fun empty => nonempty (empty ▸ listed), closing _ listed, rfl, rfl⟩

/-- All white space of a layout is cut, that of the slot and that which is added behind it. -/
theorem layout_cut (nonempty : eol ≠ "") {token : Token} (member : token ∈ slot.layout eol)
    (white : token.isWhitespace = true) : token.Cut eol := by
  have mark : eol.toList ≠ [] := by simpa using nonempty
  cases kind : slot.token.isWhitespace with
  | true =>
    simp only [layout, kind, if_true] at member
    refine blankTokens_cut ?_ ?_ token member
    · intro empty
      obtain ⟨piece, cut, same⟩ := List.mem_map.mp empty
      exact Text.ne_nil_of_mem_pieces cut (by simpa using same)
    · intro content listed
      obtain ⟨piece, cut, rfl⟩ := List.mem_map.mp listed
      rw [String.toList_ofList]
      exact Text.pieces_spec mark piece cut
  | false =>
    simp only [layout, kind] at member
    cases List.mem_cons.mp member with
    | inl same =>
      rw [same, kind] at white
      exact Bool.noConfusion white
    | inr behind =>
      refine blankTokens_cut ?_ ?_ token behind
      · intro empty
        exact nonempty (List.eq_of_mem_replicate empty).symm
      · intro content listed
        rw [List.eq_of_mem_replicate listed]
        exact Text.onlyAtEnd_self eol.toList

theorem countP_layout (eol : String) (slot : Slot) :
    (slot.layout eol).countP (!·.isWhitespace) = if slot.token.isWhitespace then 0 else 1 := by
  cases kind : slot.token.isWhitespace with
  | true =>
    refine List.countP_eq_zero.mpr ?_
    intro token member
    simp [layout_white kind token member]
  | false =>
    obtain ⟨rest, laid, white⟩ := layout_solid eol kind
    have none : rest.countP (!·.isWhitespace) = 0 :=
      List.countP_eq_zero.mpr fun token member => by simp [white token member]
    simp [laid, kind, none]

theorem sum_layout (nonempty : eol ≠ "") (slot : Slot) :
    ((slot.layout eol).map fun token =>
      Text.breakCount eol.toList token.content.toList).sum = slot.breaks eol := by
  have mark : eol.toList ≠ [] := by simpa using nonempty
  have blanks (line : Nat) (contents : List String) :
      ((blankTokens line contents).map fun token =>
        Text.breakCount eol.toList token.content.toList) =
      contents.map fun content => Text.breakCount eol.toList content.toList := by
    have mapped := congrArg (List.map fun content => Text.breakCount eol.toList content.toList)
      (blankTokens_contents line contents)
    rwa [List.map_map] at mapped
  have single : Text.breakCount eol.toList eol.toList = 1 := by
    rw [Text.breakCount_of_onlyAtEnd mark (Text.onlyAtEnd_self _), Text.containsBreak_self, if_pos rfl]
  cases kind : slot.token.isWhitespace with
  | true =>
    simp only [layout, kind, if_true, blanks, List.map_map, Function.comp_def, String.toList_ofList,
      breaks, Nat.add_zero]
    exact Text.sum_breakCount_pieces mark _
  | false =>
    simp [layout, kind, blanks, breaks, single]

end Slot

namespace TokenFile

theorem flatten_take_length (parts : List (List α)) (place : Nat) :
    parts.flatten.take (parts.take place).flatten.length = (parts.take place).flatten := by
  have whole : (parts.take place).flatten ++ (parts.drop place).flatten = parts.flatten := by
    rw [← List.flatten_append, List.take_append_drop]
  rw [← whole, List.take_left]

/-- A part of a list of lists stands between the parts before it and those behind it. -/
theorem flatten_cut {parts : List (List α)} {place : Nat} {part : List α}
    (found : parts[place]? = some part) :
    (parts.take place).flatten ++ (part ++ (parts.drop (place + 1)).flatten) = parts.flatten := by
  obtain ⟨inside, here⟩ := List.getElem?_eq_some_iff.mp found
  rw [← here, ← List.flatten_cons, ← List.drop_eq_getElem_cons inside, ← List.flatten_append,
    List.take_append_drop]

theorem flatten_getElem?_start {parts : List (List α)} {place : Nat} {first : α} {rest : List α}
    (found : parts[place]? = some (first :: rest)) :
    parts.flatten[(parts.take place).flatten.length]? = some first := by
  rw [← flatten_cut found, List.getElem?_append_right (Nat.le_refl _), Nat.sub_self]
  rfl

theorem relocate_start {layouts : List (List Token)} {place : Nat} {first : Token}
    {rest : List Token} (found : layouts[place]? = some (first :: rest)) :
    relocate layouts place = (layouts.take place).flatten.length := by
  obtain ⟨inside, _⟩ := List.getElem?_eq_some_iff.mp (flatten_getElem?_start found)
  exact Nat.min_eq_left (by omega)

/-- The token with its scopes moved along by a layout. -/
def rescope (layouts : List (List Token)) (token : Token) : Token :=
  { token with
    scopeOpener := token.scopeOpener.map (relocate layouts)
    scopeCloser := token.scopeCloser.map (relocate layouts) }

/-- How many line endings the tokens before a position hold. -/
def breaksBefore (file : TokenFile) (position : Nat) : Nat :=
  ((file.tokens.take position).map file.breaksIn).sum

variable {eol : String} {slots : List Slot} {slot : Slot} {place : Nat}

theorem ofSlots_tokens (eol : String) (slots : List Slot) :
    (ofSlots eol slots).tokens =
      (slots.map (Slot.layout eol)).flatten.map (rescope (slots.map (Slot.layout eol))) :=
  rfl

/-- Every token of a layout comes from a slot, with its scopes moved. -/
theorem mem_ofSlots {token : Token} (member : token ∈ (ofSlots eol slots).tokens) :
    ∃ slot ∈ slots, ∃ laid ∈ slot.layout eol,
      token = rescope (slots.map (Slot.layout eol)) laid := by
  obtain ⟨laid, inside, rfl⟩ := List.mem_map.mp member
  obtain ⟨layout, listed, member⟩ := List.mem_flatten.mp inside
  obtain ⟨slot, found, rfl⟩ := List.mem_map.mp listed
  exact ⟨slot, found, laid, member, rfl⟩

theorem length_ofSlots (eol : String) (slots : List Slot) :
    (ofSlots eol slots).tokens.length = (slots.map (Slot.layout eol)).flatten.length := by
  rw [ofSlots_tokens, List.length_map]

theorem countP_flatten_layout (eol : String) (slots : List Slot) :
    (slots.map (Slot.layout eol)).flatten.countP (!·.isWhitespace) =
      slots.countP (!·.token.isWhitespace) := by
  induction slots with
  | nil => rfl
  | cons slot rest ih =>
    rw [List.map_cons, List.flatten_cons, List.countP_append, ih, Slot.countP_layout,
      List.countP_cons, Nat.add_comm]
    cases slot.token.isWhitespace <;> rfl

theorem sum_flatten_layout (nonempty : eol ≠ "") (slots : List Slot) :
    ((slots.map (Slot.layout eol)).flatten.map fun token =>
      Text.breakCount eol.toList token.content.toList).sum = (slots.map (Slot.breaks eol)).sum := by
  induction slots with
  | nil => rfl
  | cons slot rest ih =>
    rw [List.map_cons, List.flatten_cons, List.map_append, List.sum_append, ih,
      Slot.sum_layout nonempty, List.map_cons, List.sum_cons]

/-- The `k`-th solid slot is laid out as the `k`-th solid token, at the place that scopes are moved to. -/
theorem solids_ofSlots (eol : String) (found : slots[place]? = some slot)
    (solid : slot.token.isWhitespace = false) :
    (ofSlots eol slots).solids[(slots.take place).countP (!·.token.isWhitespace)]? =
      some (rescope (slots.map (Slot.layout eol)) slot.token,
        relocate (slots.map (Slot.layout eol)) place) := by
  obtain ⟨rest, laid, _⟩ := Slot.layout_solid eol solid
  have part : (slots.map (Slot.layout eol))[place]? = some (slot.token :: rest) := by
    rw [List.getElem?_map, found, Option.map_some, laid]
  rw [getElem?_solids, ofSlots_tokens, rank, ofSlots_tokens, relocate_start part]
  refine ⟨?_, solid, ?_⟩
  · rw [List.getElem?_map, flatten_getElem?_start part, Option.map_some]
  · rw [← List.map_take, flatten_take_length, List.countP_map, ← List.map_take]
    exact countP_flatten_layout eol (slots.take place)

theorem breaksBefore_ofSlots (nonempty : eol ≠ "") (found : slots[place]? = some slot)
    (solid : slot.token.isWhitespace = false) :
    (ofSlots eol slots).breaksBefore (relocate (slots.map (Slot.layout eol)) place) =
      ((slots.take place).map (Slot.breaks eol)).sum := by
  obtain ⟨rest, laid, _⟩ := Slot.layout_solid eol solid
  have part : (slots.map (Slot.layout eol))[place]? = some (slot.token :: rest) := by
    rw [List.getElem?_map, found, Option.map_some, laid]
  rw [breaksBefore, ofSlots_tokens, relocate_start part, ← List.map_take, flatten_take_length,
    List.map_map, ← List.map_take]
  exact sum_flatten_layout nonempty (slots.take place)

theorem getElem?_numberFrom (eol : List Char) (line : Nat) (tokens : List Token) (position : Nat) :
    (numberFrom eol line tokens)[position]? = tokens[position]?.map fun token =>
      { token with
        line := line + ((tokens.take position).map fun token =>
          Text.breakCount eol token.content.toList).sum } := by
  induction tokens generalizing line position with
  | nil => rfl
  | cons token rest ih =>
    cases position with
    | zero => rfl
    | succ position =>
      simp only [numberFrom, List.getElem?_cons_succ, ih, List.take_succ_cons, List.map_cons,
        List.sum_cons, Nat.add_assoc]

theorem numberFrom_map {β : Type} (view : Token → β) (same : ∀ token line,
    view { token with line } = view token) (eol : List Char) (line : Nat) (tokens : List Token) :
    (numberFrom eol line tokens).map view = tokens.map view := by
  induction tokens generalizing line with
  | nil => rfl
  | cons token rest ih => rw [numberFrom, List.map_cons, List.map_cons, ih, same]

theorem renumber_map {β : Type} (view : Token → β) (same : ∀ token line,
    view { token with line } = view token) (file : TokenFile) :
    file.renumber.tokens.map view = file.tokens.map view :=
  numberFrom_map view same _ _ _

theorem length_renumber (file : TokenFile) : file.renumber.tokens.length = file.tokens.length := by
  have mapped := congrArg List.length (renumber_map Token.kind (fun _ _ => rfl) file)
  rwa [List.length_map, List.length_map] at mapped

theorem mem_renumber {file : TokenFile} {token : Token} (member : token ∈ file.renumber.tokens) :
    ∃ original ∈ file.tokens, token = { original with line := token.line } := by
  obtain ⟨position, found⟩ := List.mem_iff_getElem?.mp member
  rw [renumber, getElem?_numberFrom, Option.map_eq_some_iff] at found
  obtain ⟨original, there, rfl⟩ := found
  exact ⟨original, List.mem_of_getElem? there, rfl⟩

theorem countP_take_renumber (file : TokenFile) (position : Nat) :
    (file.renumber.tokens.take position).countP (!·.isWhitespace) = file.rank position := by
  have before := congrArg (fun kinds => (kinds.take position).countP (! ·))
    (renumber_map Token.isWhitespace (fun _ _ => rfl) file)
  simp only [← List.map_take, List.countP_map] at before
  exact before

/-- Renumbering leaves solid tokens in place and counts their lines from the first token's. -/
theorem solids_renumber {file : TokenFile} {k here : Nat} {token : Token}
    (found : file.solids[k]? = some (token, here)) :
    file.renumber.solids[k]? = some ({ token with
      line := (file.tokens.head?.map (·.line)).getD 1 + file.breaksBefore here }, here) := by
  obtain ⟨foundHere, solid, rankHere⟩ := getElem?_solids.mp found
  refine getElem?_solids.mpr ⟨?_, solid, (countP_take_renumber file here).trans rankHere⟩
  rw [renumber, getElem?_numberFrom, foundHere]
  rfl

theorem length_solids (file : TokenFile) :
    file.solids.length = file.tokens.countP (!·.isWhitespace) := by
  have whole := congrArg (List.countP (!·.isWhitespace)) (List.zipIdx_map_fst 0 file.tokens)
  rw [List.countP_map] at whole
  rw [solids, ← List.countP_eq_length_filter]
  exact whole

theorem length_solids_renumber (file : TokenFile) :
    file.renumber.solids.length = file.solids.length := by
  have count := countP_take_renumber file file.tokens.length
  rw [rank, ← length_renumber, List.take_length, length_renumber, List.take_length] at count
  rw [length_solids, length_solids, count]

theorem length_solids_ofSlots (eol : String) (slots : List Slot) :
    (ofSlots eol slots).solids.length = slots.countP (!·.token.isWhitespace) := by
  rw [length_solids, ofSlots_tokens, List.countP_map]
  exact countP_flatten_layout eol slots

end TokenFile

end BlankLines
