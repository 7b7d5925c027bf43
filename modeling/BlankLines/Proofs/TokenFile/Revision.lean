import BlankLines.Fixer
import BlankLines.Proofs.TokenFile.Layout

/-!
Revising a file: corrections are made token by token, each token by those at its own position, and the
result is laid out and renumbered. Solid tokens stay in order, and scopes stay with them.
-/
namespace BlankLines

namespace Slot

def edit (eol : String) (slot : Slot) : Correction → Slot
  | .delete _ => ({ toSlot := slot } : EditSlot).erase.toSlot
  | .insertNewline _ => (({ toSlot := slot } : EditSlot).addNewline eol).toSlot

def editAll (eol : String) (slots : List Slot) (corrections : List Correction) : List Slot :=
  corrections.foldl (fun slots correction => slots.modify correction.position (·.edit eol correction))
    slots

variable {eol : String} {slot : Slot} {corrections : List Correction}

/-- Corrections in order change each slot by those at its own position. -/
theorem getElem?_editAll (eol : String) (slots : List Slot) (corrections : List Correction)
    (position : Nat) :
    (editAll eol slots corrections)[position]? = slots[position]?.map fun slot =>
      (corrections.filter (·.position = position)).foldl (edit eol) slot := by
  induction corrections generalizing slots with
  | nil => simp [editAll]
  | cons correction rest ih =>
    simp only [editAll, List.foldl_cons] at ih ⊢
    rw [ih, List.getElem?_modify, Option.map_eq_map, Option.map_map]
    by_cases same : correction.position = position <;> simp [same, Function.comp_def]

theorem edit_white (white : slot.token.isWhitespace = true) (position : Nat) :
    slot.edit eol (.insertNewline position) =
      { slot with token := { slot.token with content := slot.token.content ++ eol } } := by
  simp only [edit, EditSlot.addNewline, white, if_true]

theorem edit_solid (solid : slot.token.isWhitespace = false) (position : Nat) :
    slot.edit eol (.insertNewline position) = { slot with newlines := slot.newlines + 1 } := by
  simp [edit, EditSlot.addNewline, solid]

theorem token_edit (correction : Correction) : (slot.edit eol correction).token =
    { slot.token with content := (slot.edit eol correction).token.content } := by
  cases correction with
  | delete => rfl
  | insertNewline position =>
    cases kind : slot.token.isWhitespace with
    | true => rw [edit_white kind]
    | false => rw [edit_solid kind]

theorem token_foldl_edit (corrections : List Correction) :
    (corrections.foldl (edit eol) slot).token =
      { slot.token with content := (corrections.foldl (edit eol) slot).token.content } := by
  induction corrections generalizing slot with
  | nil => rfl
  | cons correction rest ih =>
    rw [List.foldl_cons, ih, token_edit]

/-- Line endings added to a solid token are kept apart from its text. -/
theorem foldl_edit_solid (solid : slot.token.isWhitespace = false)
    (kept : ∀ position, .delete position ∉ corrections) :
    corrections.foldl (edit eol) slot =
      { slot with newlines := slot.newlines + corrections.length } := by
  induction corrections generalizing slot with
  | nil => rfl
  | cons correction rest ih =>
    cases correction with
    | delete position => exact absurd List.mem_cons_self (kept position)
    | insertNewline position =>
      have rest := @ih { slot with newlines := slot.newlines + 1 } solid fun position member =>
        kept position (List.mem_cons_of_mem _ member)
      rw [List.foldl_cons, edit_solid solid, rest, List.length_cons, Nat.add_assoc, Nat.add_comm 1]

end Slot

namespace TokenFile

/-- The corrections at a position, in order, made on the token there. -/
def slotAt (file : TokenFile) (corrections : List Correction) (position : Nat) (token : Token) : Slot :=
  (corrections.filter (·.position = position)).foldl (Slot.edit file.eol) { token }

def slots (file : TokenFile) (corrections : List Correction) : List Slot :=
  file.tokens.mapIdx (file.slotAt corrections)

/-- The file with corrections made, laid out afresh and renumbered. -/
def revise (file : TokenFile) (corrections : List Correction) : TokenFile :=
  (ofSlots file.eol (file.slots corrections)).renumber

variable {file : TokenFile} {corrections : List Correction} {k here : Nat} {token : Token}

theorem slotAt_token (file : TokenFile) (corrections : List Correction) (position : Nat)
    (token : Token) : (file.slotAt corrections position token).token =
      { token with content := (file.slotAt corrections position token).token.content } :=
  Slot.token_foldl_edit _

@[simp] theorem slotAt_white (file : TokenFile) (corrections : List Correction) (position : Nat)
    (token : Token) :
    (file.slotAt corrections position token).token.isWhitespace = token.isWhitespace := by
  rw [slotAt_token]
  rfl

theorem getElem?_slots (file : TokenFile) (corrections : List Correction) (position : Nat) :
    (file.slots corrections)[position]? =
      file.tokens[position]?.map (file.slotAt corrections position) :=
  List.getElem?_mapIdx

theorem mem_slots {slot : Slot} (member : slot ∈ file.slots corrections) :
    ∃ position token, file.tokens[position]? = some token ∧
      slot = file.slotAt corrections position token := by
  obtain ⟨position, found⟩ := List.mem_iff_getElem?.mp member
  rw [getElem?_slots, Option.map_eq_some_iff] at found
  obtain ⟨token, there, rfl⟩ := found
  exact ⟨position, token, there, rfl⟩

theorem delete_notMem_filter {here : Nat} (kept : .delete here ∉ corrections) (position : Nat) :
    .delete position ∉ corrections.filter (·.position = here) := by
  intro member
  obtain ⟨member, same⟩ := List.mem_filter.mp member
  have same : position = here := of_decide_eq_true same
  exact kept (same ▸ member)

theorem slotAt_solid {token : Token} {here : Nat} (solid : token.isWhitespace = false)
    (kept : .delete here ∉ corrections) :
    file.slotAt corrections here token =
      ⟨token, (corrections.filter (·.position = here)).length⟩ := by
  rw [slotAt, Slot.foldl_edit_solid solid (delete_notMem_filter kept), Nat.zero_add]

/-- Only the corrections at each position, in order, decide what a file is revised to. -/
theorem revise_congr {others : List Correction}
    (same : ∀ position, corrections.filter (·.position = position) =
      others.filter (·.position = position)) :
    file.revise corrections = file.revise others := by
  have slots : file.slotAt corrections = file.slotAt others := by
    funext position token
    simp only [slotAt, same]
  simp only [revise, TokenFile.slots, slots]

def moved (file : TokenFile) (corrections : List Correction) : Nat → Nat :=
  relocate ((file.slots corrections).map (Slot.layout file.eol))

def movedLine (file : TokenFile) (corrections : List Correction) (position : Nat) : Nat :=
  let laid := ofSlots file.eol (file.slots corrections)
  (laid.tokens.head?.map (·.line)).getD 1 + laid.breaksBefore (file.moved corrections position)

theorem countP_take_slots (file : TokenFile) (corrections : List Correction) (place : Nat) :
    ((file.slots corrections).take place).countP (!·.token.isWhitespace) = file.rank place := by
  have kinds : (file.slots corrections).map (·.token.isWhitespace) =
      file.tokens.map (·.isWhitespace) := by
    apply List.ext_getElem?
    intro position
    simp only [List.getElem?_map, getElem?_slots, Option.map_map, Function.comp_def, slotAt_white]
  have before := congrArg (fun kinds => (kinds.take place).countP (! ·)) kinds
  simpa only [← List.map_take, List.countP_map, Function.comp_def, rank] using before

/-- The `k`-th solid token stays the `k`-th, and its scopes move with the tokens they point at. -/
theorem solids_revise (corrections : List Correction)
    (found : file.solids[k]? = some (token, here)) :
    (file.revise corrections).solids[k]? = some ({
      kind := token.kind
      line := file.movedLine corrections here
      content := (file.slotAt corrections here token).token.content
      scopeOpener := token.scopeOpener.map (file.moved corrections)
      scopeCloser := token.scopeCloser.map (file.moved corrections) },
      file.moved corrections here) := by
  obtain ⟨foundHere, solid, rankHere⟩ := getElem?_solids.mp found
  have slot : (file.slots corrections)[here]? = some (file.slotAt corrections here token) := by
    rw [getElem?_slots, foundHere, Option.map_some]
  have laid := solids_ofSlots file.eol slot ((slotAt_white ..).trans solid)
  rw [countP_take_slots, rankHere, slotAt_token] at laid
  exact solids_renumber laid

theorem length_solids_revise (file : TokenFile) (corrections : List Correction) :
    (file.revise corrections).solids.length = file.solids.length := by
  have count := countP_take_slots file corrections file.tokens.length
  have size : (file.slots corrections).length = file.tokens.length := List.length_mapIdx
  rw [rank, List.take_length, ← size, List.take_length] at count
  rw [revise, length_solids_renumber, length_solids_ofSlots, length_solids, count]

theorem exists_of_solids_revise {token' : Token} {here' : Nat}
    (found : (file.revise corrections).solids[k]? = some (token', here')) :
    ∃ token here, file.solids[k]? = some (token, here) ∧ here' = file.moved corrections here ∧
      token'.kind = token.kind ∧
      token'.scopeOpener = token.scopeOpener.map (file.moved corrections) ∧
      token'.scopeCloser = token.scopeCloser.map (file.moved corrections) := by
  obtain ⟨inside, _⟩ := List.getElem?_eq_some_iff.mp found
  rw [length_solids_revise] at inside
  have original := List.getElem?_eq_getElem inside
  have revised := solids_revise corrections original
  rw [found, Option.some.injEq, Prod.mk.injEq] at revised
  obtain ⟨rfl, rfl⟩ := revised
  exact ⟨_, _, original, rfl, rfl, rfl, rfl⟩

/-- A solid token of a revision, with the token that it was before. -/
theorem exists_of_getElem?_revise {token' : Token} {here' : Nat}
    (found : (file.revise corrections).tokens[here']? = some token')
    (solid : token'.isWhitespace = false) :
    ∃ token here, file.tokens[here]? = some token ∧ token.isWhitespace = false ∧
      here' = file.moved corrections here ∧ token'.kind = token.kind ∧
      token'.scopeOpener = token.scopeOpener.map (file.moved corrections) ∧
      token'.scopeCloser = token.scopeCloser.map (file.moved corrections) := by
  obtain ⟨token, here, original, same⟩ :=
    exists_of_solids_revise (getElem?_solids.mpr ⟨found, solid, rfl⟩)
  obtain ⟨foundHere, solidHere, _⟩ := getElem?_solids.mp original
  exact ⟨token, here, foundHere, solidHere, same⟩

theorem getElem?_revise (corrections : List Correction) (found : file.tokens[here]? = some token)
    (solid : token.isWhitespace = false) :
    (file.revise corrections).tokens[file.moved corrections here]? = some {
      kind := token.kind
      line := file.movedLine corrections here
      content := (file.slotAt corrections here token).token.content
      scopeOpener := token.scopeOpener.map (file.moved corrections)
      scopeCloser := token.scopeCloser.map (file.moved corrections) } :=
  (getElem?_solids.mp (solids_revise corrections (getElem?_solids.mpr ⟨found, solid, rfl⟩))).1

end TokenFile

end BlankLines
