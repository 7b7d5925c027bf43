import BlankLines.Proofs.TokenFile.Lines

/-!
Files moved down by a number of lines. Searches, line breaks and text do not look at lines, revisions
move along, and the lines between two tokens stay the same as long as none reaches half the words.
-/
namespace BlankLines

/-- The token moved down by a number of lines. -/
def Token.shift (down : Nat) (token : Token) : Token :=
  { token with line := token.line + down }

def Slot.shift (down : Nat) (slot : Slot) : Slot :=
  { slot with token := slot.token.shift down }

def TokenFile.shift (down : Nat) (file : TokenFile) : TokenFile :=
  { file with tokens := file.tokens.map (Token.shift down) }

theorem Slot.shift_edit (down : Nat) (eol : String) (slot : Slot) (correction : Correction) :
    (slot.shift down).edit eol correction = (slot.edit eol correction).shift down := by
  cases correction with
  | delete position => rfl
  | insertNewline position =>
    cases kind : slot.token.isWhitespace with
    | true =>
      have white : (slot.shift down).token.isWhitespace = true := kind
      rw [edit_white white, edit_white kind]
      rfl
    | false =>
      have solid : (slot.shift down).token.isWhitespace = false := kind
      rw [edit_solid solid, edit_solid kind]
      rfl

theorem Slot.shift_foldl_edit (down : Nat) (eol : String) (slot : Slot)
    (corrections : List Correction) :
    corrections.foldl (edit eol) (slot.shift down) =
      (corrections.foldl (edit eol) slot).shift down := by
  induction corrections generalizing slot with
  | nil => rfl
  | cons correction rest ih => rw [List.foldl_cons, List.foldl_cons, shift_edit, ih]

theorem Slot.shift_layout (down : Nat) (eol : String) (slot : Slot) :
    (slot.shift down).layout eol = (slot.layout eol).map (Token.shift down) := by
  have blanks (line : Nat) (contents : List String) :
      blankTokens (line + down) contents = (blankTokens line contents).map (Token.shift down) := by
    induction contents generalizing line with
    | nil => rfl
    | cons content rest ih =>
      simp only [blankTokens, List.zipIdx_cons, List.map_cons, Nat.add_right_comm line down 1] at ih ⊢
      rw [ih]
      rfl
  cases kind : slot.token.isWhitespace with
  | true =>
    have white : (slot.shift down).token.isWhitespace = true := kind
    simp only [layout, kind, white, if_true, ← blanks]
    rfl
  | false =>
    have solid : (slot.shift down).token.isWhitespace = false := kind
    simp only [layout, kind, solid, Bool.false_eq_true, if_false, List.map_cons, ← blanks,
      Nat.add_right_comm]
    rfl

namespace TokenFile

variable {file : TokenFile} {low high : Nat} {first last : Token}

section Reading

variable (down : Nat) (file : TokenFile)

@[simp] theorem shift_eol : (file.shift down).eol = file.eol :=
  rfl

@[simp] theorem getElem?_shift (position : Nat) :
    (file.shift down).tokens[position]? = file.tokens[position]?.map (Token.shift down) :=
  List.getElem?_map

@[simp] theorem length_shift : (file.shift down).tokens.length = file.tokens.length :=
  List.length_map _

/-- Moving lines moves no text. -/
@[simp] theorem render_shift : (file.shift down).render = file.render := by
  rw [render, render, shift, List.map_map]
  rfl

@[simp] theorem findNext_shift (kinds : List TokenKind) (start : Nat) (stop : Option Nat)
    (exclude : Bool) :
    (file.shift down).findNext kinds start stop exclude = file.findNext kinds start stop exclude := by
  cases stop with
  | none =>
    simp only [findNext, shift, ← List.map_drop, List.findIdx?_map]
    rfl
  | some stop =>
    simp only [findNext, shift, ← List.map_take, ← List.map_drop, List.findIdx?_map]
    rfl

@[simp] theorem findPrevious_shift (kinds : List TokenKind) (start : Nat) (stop : Option Nat)
    (exclude : Bool) : (file.shift down).findPrevious kinds start stop exclude =
      file.findPrevious kinds start stop exclude := by
  simp only [findPrevious, shift, ← List.map_take, ← List.map_drop, ← List.map_reverse,
    List.findIdx?_map, List.length_map]
  rfl

@[simp] theorem findLineEnd_shift (start : Nat) :
    (file.shift down).findLineEnd start = file.findLineEnd start := by
  simp only [findLineEnd, shift, ← List.map_drop, List.findIdx?_map]
  rfl

@[simp] theorem lineBreaks_shift (start stop : Nat) :
    (file.shift down).lineBreaks start stop = file.lineBreaks start stop := by
  rw [lineBreaks_eq, lineBreaks_eq]
  congr 1
  funext position
  rw [breaksAt, breaksAt, getElem?_shift, Option.any_map]
  rfl

end Reading

/-- The lines between two tokens do not depend on where the file begins. -/
theorem LinesBelow.lineDelta_shift {down : Nat} (small : (file.shift down).LinesBelow Word.half)
    (begins : file.tokens[low]? = some first) (ends : file.tokens[high]? = some last) :
    (last.shift down).lineDelta (first.shift down) = last.lineDelta first := by
  have below {position : Nat} {token : Token} (found : file.tokens[position]? = some token) :
      token.line + down < Word.half :=
    small _ (List.mem_map_of_mem (f := Token.shift down) (List.mem_of_getElem? found))
  have begins' := below begins
  have ends' := below ends
  rw [Token.lineDelta, Token.lineDelta, Token.shift, Token.shift, Word.signed_of_lt begins',
    Word.signed_of_lt ends', Word.signed_of_lt (by omega), Word.signed_of_lt (by omega)]
  omega

section Revising

theorem relocate_map (move : Token → Token) (layouts : List (List Token)) :
    relocate (layouts.map (List.map move)) = relocate layouts := by
  funext position
  rw [relocate, relocate, ← List.map_take, ← List.map_flatten, ← List.map_flatten, List.length_map,
    List.length_map]

theorem rescope_map (move : Token → Token) (layouts : List (List Token)) :
    rescope (layouts.map (List.map move)) = rescope layouts := by
  funext token
  rw [rescope, rescope, relocate_map]

theorem shift_ofSlots (down : Nat) (eol : String) (slots : List Slot) :
    ofSlots eol (slots.map (Slot.shift down)) = (ofSlots eol slots).shift down := by
  have layouts : (slots.map (Slot.shift down)).map (Slot.layout eol) =
      (slots.map (Slot.layout eol)).map (List.map (Token.shift down)) := by
    rw [List.map_map, List.map_map]
    exact List.map_congr_left fun slot _ => Slot.shift_layout down eol slot
  have tokens : (ofSlots eol (slots.map (Slot.shift down))).tokens =
      (ofSlots eol slots).tokens.map (Token.shift down) := by
    rw [ofSlots_tokens, layouts, ofSlots_tokens, rescope_map, ← List.map_flatten, List.map_map,
      List.map_map]
    rfl
  exact congrArg (TokenFile.mk eol) tokens

theorem shift_numberFrom (down : Nat) (eol : List Char) (line : Nat) (tokens : List Token) :
    numberFrom eol (line + down) (tokens.map (Token.shift down)) =
      (numberFrom eol line tokens).map (Token.shift down) := by
  induction tokens generalizing line with
  | nil => rfl
  | cons token rest ih =>
    simp only [List.map_cons, numberFrom, ← ih, Nat.add_right_comm line down]
    rfl

theorem shift_renumber (down : Nat) (file : TokenFile) :
    (file.shift down).renumber = file.renumber.shift down := by
  cases file with
  | mk eol tokens =>
    cases tokens with
    | nil => rfl
    | cons token rest =>
      exact congrArg (TokenFile.mk eol) (shift_numberFrom down eol.toList token.line (token :: rest))

/-- Corrections make of a file that has been moved what they make of the file, moved as well. -/
theorem shift_revise (down : Nat) (file : TokenFile) (corrections : List Correction) :
    (file.shift down).revise corrections = (file.revise corrections).shift down := by
  have slots : (file.shift down).slots corrections =
      (file.slots corrections).map (Slot.shift down) := by
    apply List.ext_getElem?
    intro position
    rw [getElem?_slots, List.getElem?_map, getElem?_slots, getElem?_shift, Option.map_map,
      Option.map_map]
    congr 1
    funext token
    exact Slot.shift_foldl_edit down file.eol { token } _
  rw [revise, slots, shift_eol, shift_ofSlots, shift_renumber]
  rfl

end Revising

end TokenFile

end BlankLines
