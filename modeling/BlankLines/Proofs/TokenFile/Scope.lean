import BlankLines.Proofs.TokenFile.Text
import Mathlib.Data.List.Forall2

/-!
Scopes along a layout. Every scope is moved into range, and one at a solid token is moved to where that
token has gone, so solid tokens keep their kinds and the tokens that their scopes join.
-/
namespace BlankLines

/-- Both scopes of the token, where it has them, are below a bound. -/
def Token.ScopesBelow (bound : Nat) (token : Token) : Prop :=
  ∀ scope, token.scopeOpener = some scope ∨ token.scopeCloser = some scope → scope < bound

namespace TokenFile

/-- What becomes of a scope from one file to another. An absent one stays absent. Any other is in range
afterwards, and at the `k`-th solid token if it was at the `k`-th solid token before. -/
def Follows (before after : TokenFile) : Option Nat → Option Nat → Prop
  | none, moved => moved = none
  | some scope, moved => ∃ place, moved = some place ∧ place < after.tokens.length ∧
      ∀ (k : Nat) (target : Token), before.solids[k]? = some (target, scope) →
        ∃ target' : Token, after.solids[k]? = some (target', place)

/-- The token of the second file is of the kind of that of the first and has its scopes. -/
structure Keeps (before after : TokenFile) (token token' : Token) : Prop where
  kind : token'.kind = token.kind
  opener : Follows before after token.scopeOpener token'.scopeOpener
  closer : Follows before after token.scopeCloser token'.scopeCloser

variable {before after file : TokenFile} {eol : String} {slots : List Slot}
  {layouts : List (List Token)} {token : Token} {k here : Nat}

theorem forall₂_of_getElem? {α β : Type} {related : α → β → Prop} {items : List α} {items' : List β}
    (size : items'.length = items.length)
    (each : ∀ (k : Nat) (item : α), items[k]? = some item →
      ∃ item' : β, items'[k]? = some item' ∧ related item item') :
    List.Forall₂ related items items' := by
  refine List.forall₂_iff_get.mpr ⟨size.symm, ?_⟩
  intro k inside inside'
  obtain ⟨item', found, holds⟩ := each k _ (List.getElem?_eq_getElem inside)
  rw [List.getElem?_eq_getElem inside', Option.some.injEq] at found
  subst found
  exact holds

theorem relocate_lt (nonempty : 0 < layouts.flatten.length) (position : Nat) :
    relocate layouts position < layouts.flatten.length := by
  rw [relocate]
  omega

/-- A layout moves every scope into range, even one that was not. -/
theorem scopesBelow_ofSlots (member : token ∈ (ofSlots eol slots).tokens) :
    token.ScopesBelow (ofSlots eol slots).tokens.length := by
  have nonempty := List.length_pos_of_mem member
  rw [length_ofSlots] at nonempty ⊢
  obtain ⟨_, _, laid, _, rfl⟩ := mem_ofSlots member
  rintro scope (opener | closer)
  · obtain ⟨place, _, rfl⟩ := Option.map_eq_some_iff.mp opener
    exact relocate_lt nonempty place
  · obtain ⟨place, _, rfl⟩ := Option.map_eq_some_iff.mp closer
    exact relocate_lt nonempty place

/-- Where solid tokens are relocated, scopes that are relocated too follow them. -/
theorem Follows.of_relocate (size : after.tokens.length = layouts.flatten.length)
    (stays : ∀ (k : Nat) (token : Token) (here : Nat), before.solids[k]? = some (token, here) →
      ∃ token' : Token, after.solids[k]? = some (token', relocate layouts here))
    (nonempty : 0 < after.tokens.length) (scope : Option Nat) :
    Follows before after scope (scope.map (relocate layouts)) := by
  cases scope with
  | none => rfl
  | some place =>
    rw [size] at nonempty
    exact ⟨_, rfl, size ▸ relocate_lt nonempty place, fun k target => stays k target place⟩

theorem length_revise (file : TokenFile) (corrections : List Correction) :
    (file.revise corrections).tokens.length =
      ((file.slots corrections).map (Slot.layout file.eol)).flatten.length := by
  rw [TokenFile.revise, length_renumber, length_ofSlots]

/-- Solid tokens keep their kinds and scopes in a revision, and their contents unless a correction
deletes them. -/
theorem keeps_revise (file : TokenFile) (corrections : List Correction) :
    List.Forall₂ (fun old new => Keeps file (file.revise corrections) old.1 new.1 ∧
      new.1.content = if .delete old.2 ∈ corrections then "" else old.1.content)
      file.solids (file.revise corrections).solids := by
  apply forall₂_of_getElem? (length_solids_revise file corrections)
  rintro k ⟨token, here⟩ found
  have moved := solids_revise corrections found
  have nonempty : 0 < (file.revise corrections).tokens.length :=
    List.length_pos_of_mem (List.mem_of_getElem? (getElem?_solids.mp moved).1)
  have follows := Follows.of_relocate (length_revise file corrections)
    (fun k token here found => ⟨_, solids_revise corrections found⟩) nonempty
  exact ⟨_, moved, ⟨rfl, follows _, follows _⟩, slotAt_content (getElem?_solids.mp found).2.1 _ _⟩

/-- The tokens that the tokens of a file are cut into, each by itself. -/
def cuts (file : TokenFile) : List (List Token) :=
  (file.tokens.map ({ token := · } : Token → Slot)).map (Slot.layout file.eol)

theorem splitLineBreaks_tokens (file : TokenFile) :
    file.splitLineBreaks.tokens = file.cuts.flatten.map (rescope file.cuts) :=
  rfl

theorem solids_splitLineBreaks (found : file.solids[k]? = some (token, here)) :
    file.splitLineBreaks.solids[k]? =
      some (rescope file.cuts token, relocate file.cuts here) := by
  obtain ⟨foundHere, solid, rankHere⟩ := getElem?_solids.mp found
  have slot : (file.tokens.map ({ token := · } : Token → Slot))[here]? = some { token } := by
    rw [List.getElem?_map, foundHere, Option.map_some]
  have laid := solids_ofSlots file.eol slot solid
  rw [← List.map_take, List.countP_map] at laid
  exact rankHere ▸ laid

theorem length_solids_splitLineBreaks (file : TokenFile) :
    file.splitLineBreaks.solids.length = file.solids.length := by
  rw [splitLineBreaks, length_solids_ofSlots, length_solids, List.countP_map]
  rfl

/-- Cutting white space leaves the solid tokens as they are, and their scopes follow. -/
theorem keeps_splitLineBreaks (file : TokenFile) :
    List.Forall₂ (fun old new => Keeps file file.splitLineBreaks old.1 new.1 ∧
      new.1.line = old.1.line ∧ new.1.content = old.1.content)
      file.solids file.splitLineBreaks.solids := by
  apply forall₂_of_getElem? (length_solids_splitLineBreaks file)
  rintro k ⟨token, here⟩ found
  have moved := solids_splitLineBreaks found
  have nonempty : 0 < file.splitLineBreaks.tokens.length :=
    List.length_pos_of_mem (List.mem_of_getElem? (getElem?_solids.mp moved).1)
  have follows := Follows.of_relocate (length_ofSlots ..)
    (fun k token here found => ⟨_, solids_splitLineBreaks found⟩) nonempty
  exact ⟨_, moved, ⟨rfl, follows _, follows _⟩, rfl, rfl⟩

end TokenFile

end BlankLines
