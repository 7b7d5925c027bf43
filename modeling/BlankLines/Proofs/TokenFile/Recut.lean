import BlankLines.Proofs.TokenFile.Canonical
import BlankLines.TokenFile.Dump

/-!
Loading a dump. A dump that parses to a valid file is loaded as that file with its white space cut in
place after every line ending, and is otherwise left as it is.
-/
namespace BlankLines

/-- The pieces, in order, that white space is cut into: they are its text, none is empty, no line ending
is in them but at their ends, only the last may have none, and each is a line below the one before. -/
structure Token.CutInto (eol : String) (token : Token) (pieces : List Token) : Prop where
  text : String.join (pieces.map (·.content)) = token.content
  white : ∀ piece ∈ pieces, piece.isWhitespace = true
  cut : ∀ piece ∈ pieces, piece.Cut eol
  ended : ∀ piece ∈ pieces.dropLast, eol.toList <:+ piece.content.toList
  counted : ∀ (offset : Nat) (piece : Token), pieces[offset]? = some piece →
    piece.line = token.line + offset

/-- What stands for a token after a cut: for white space its pieces, for any other token that token, with
its scopes where they have moved. -/
def Token.ReplacedBy (eol : String) (token : Token) (part : List Token) : Prop :=
  if token.isWhitespace then token.CutInto eol part
  else ∃ opener closer, part = [{ token with scopeOpener := opener, scopeCloser := closer }]

namespace TokenFile

/-- The second file is the first with its white space cut: the text is the same, each white space token
is replaced by its pieces, each other token by itself, and scopes still join the same solid tokens. -/
structure Recut (before after : TokenFile) : Prop where
  eol : after.eol = before.eol
  text : after.render = before.render
  solids : List.Forall₂ (fun old new => Keeps before after old.1 new.1 ∧
    new.1.line = old.1.line ∧ new.1.content = old.1.content) before.solids after.solids
  inPlace : ∃ parts : List (List Token), after.tokens = parts.flatten ∧
    List.Forall₂ (Token.ReplacedBy before.eol) before.tokens parts

variable {file : TokenFile} {eol : String} {token : Token}

theorem line_of_blankTokens {line offset : Nat} {contents : List String} {piece : Token}
    (found : (Slot.blankTokens line contents)[offset]? = some piece) : piece.line = line + offset := by
  rw [Slot.blankTokens, List.getElem?_map, List.getElem?_zipIdx, Option.map_map,
    Option.map_eq_some_iff] at found
  obtain ⟨content, _, rfl⟩ := found
  rfl

/-- White space is laid out as its pieces. -/
theorem cutInto_layout (nonempty : eol ≠ "") (white : token.isWhitespace = true) :
    token.CutInto eol (Slot.layout eol { token }) where
  text := (Slot.join_layout eol { token }).trans (Slot.text_mk eol token)
  white := Slot.layout_white white
  cut piece member := Slot.layout_cut nonempty member (Slot.layout_white white piece member)
  ended := by
    have mark : eol.toList ≠ [] := by simpa using nonempty
    intro piece member
    have content := List.mem_map_of_mem (f := (·.content)) member
    simp only [Slot.layout, white, if_true] at content
    rw [List.map_dropLast, Slot.blankTokens_contents, ← List.map_dropLast] at content
    obtain ⟨chars, cut, same⟩ := List.mem_map.mp content
    rw [← same, String.toList_ofList]
    exact Text.suffix_of_mem_dropLast_pieces mark cut
  counted := by
    intro offset piece found
    simp only [Slot.layout, white, if_true] at found
    exact line_of_blankTokens found

theorem map_rescope_layout (white : token.isWhitespace = true) (layouts : List (List Token)) :
    (Slot.layout eol { token }).map (rescope layouts) = Slot.layout eol { token } := by
  simp only [Slot.layout, white, if_true, Slot.blankTokens, List.map_map]
  rfl

theorem replacedBy_layout (nonempty : eol ≠ "") (token : Token) (layouts : List (List Token)) :
    token.ReplacedBy eol ((Slot.layout eol { token }).map (rescope layouts)) := by
  cases kind : token.isWhitespace with
  | true =>
    rw [Token.ReplacedBy, if_pos kind, map_rescope_layout kind]
    exact cutInto_layout nonempty kind
  | false =>
    have itself : Slot.layout eol { token } = [token] :=
      layout_eq_singleton nonempty fun white => by simp [kind] at white
    rw [Token.ReplacedBy, kind, itself]
    exact ⟨_, _, rfl⟩

/-- Cutting is in place, and moves neither text nor solid tokens. -/
theorem splitLineBreaks_recut (nonempty : file.eol ≠ "") : file.Recut file.splitLineBreaks where
  eol := rfl
  text := render_splitLineBreaks file
  solids := keeps_splitLineBreaks file
  inPlace := by
    refine ⟨file.cuts.map (List.map (rescope file.cuts)), ?_, ?_⟩
    · rw [splitLineBreaks_tokens, List.map_flatten]
    · -- What scopes are moved by does not matter here, so it need not be these cuts.
      have each (layouts : List (List Token)) : List.Forall₂ (Token.ReplacedBy file.eol) file.tokens
          (file.cuts.map (List.map (rescope layouts))) := by
        rw [cuts, List.map_map, List.map_map, List.forall₂_map_right_iff, List.forall₂_same]
        intro token _
        exact replacedBy_layout nonempty token layouts
      exact each file.cuts

/-- A dump of a valid file is loaded, and only its white space is cut. -/
theorem ofDump_recut {text : String} (parsed : parseDump text = .ok file)
    (valid : file.validate = .ok ()) : ∃ loaded, ofDump text = .ok loaded ∧ file.Recut loaded := by
  refine ⟨file.splitLineBreaks, ?_, ?_⟩
  · simp only [ofDump, parsed, valid]
  · exact splitLineBreaks_recut (validate_eq_ok_iff.mp valid).eol_ne

/-- White space of two line endings and a part of a third, which could be cut elsewhere as well. -/
def packedBreaks : TokenFile where
  eol := "aa"
  tokens := [
    { kind := .useDecl, line := 1, content := "aaa", scopeOpener := some 2, scopeCloser := some 1 },
    { kind := .whitespace, line := 1, content := "aaaaa", scopeOpener := some 0 },
    { kind := .other, line := 2, content := "" }]

theorem ofDump_recut_packedBreaks :
    let dump := "[\"aa\",[[\"T_USE\",1,\"aaa\",2,1],[\"whitespace\",1,\"aa\\u0061aa\",0],[\"\",2,\"\"]]]"
    parseDump dump = .ok packedBreaks ∧ packedBreaks.validate = .ok () ∧
      (∃ loaded, ofDump dump = .ok loaded ∧ packedBreaks.Recut loaded) ∧
      packedBreaks.splitLineBreaks.tokens.map (·.content) = ["aaa", "aa", "aa", "a", ""] := by
  intro dump
  have parsed : parseDump dump = .ok packedBreaks := by decide +kernel
  exact ⟨parsed, rfl, ofDump_recut parsed rfl, by decide +kernel⟩

end TokenFile

end BlankLines
