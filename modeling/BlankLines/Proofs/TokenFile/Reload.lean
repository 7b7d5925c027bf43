import BlankLines.Proofs.TokenFile.Dump
import BlankLines.Proofs.TokenFile.Recut

/-!
Loading once more what has been loaded. A cut numbers the lines of white space, so a loaded file is valid
in all but the order of its lines, and in that too unless a token begins above a line that white space
before it was cut into. Its own dump is loaded as that file in the same cases and refused in all others.
-/
namespace BlankLines

/-- The line of the last token that a token is cut into, or its own line where nothing is left of it. -/
def Token.lastLine (eol : String) (token : Token) : Nat :=
  token.line + ((Slot.layout eol { token }).length - 1)

namespace TokenFile

/-- No token that a cut leaves begins above the last line of a token before it. -/
def Unfolds (file : TokenFile) : Prop :=
  file.tokens.Pairwise fun before after =>
    Slot.layout file.eol { token := after } ≠ [] → before.lastLine file.eol ≤ after.line

instance (file : TokenFile) : Decidable file.Unfolds :=
  inferInstanceAs (Decidable (file.tokens.Pairwise _))

variable {file loaded : TokenFile} {eol : String} {token before after piece : Token} {text : String}

theorem line_of_layout {offset : Nat} (found : (Slot.layout eol { token })[offset]? = some piece) :
    piece.line = token.line + offset := by
  cases kind : token.isWhitespace with
  | true =>
    simp only [Slot.layout, kind, if_true] at found
    exact line_of_blankTokens found
  | false =>
    simp only [Slot.layout, kind, Bool.false_eq_true, if_false, List.replicate_zero, Slot.blankTokens,
      List.zipIdx_nil, List.map_nil, List.getElem?_singleton] at found
    obtain ⟨rfl, rfl⟩ := by simpa using found
    rfl

/-- The tokens that a token is cut into are on lines in order. -/
theorem pairwise_layout (eol : String) (token : Token) :
    (Slot.layout eol { token }).Pairwise (·.line ≤ ·.line) := by
  rw [List.pairwise_iff_getElem]
  intro first second inside inside' order
  rw [line_of_layout (List.getElem?_eq_getElem inside),
    line_of_layout (List.getElem?_eq_getElem inside')]
  omega

theorem line_le_lastLine (member : piece ∈ Slot.layout eol { token }) :
    piece.line ≤ token.lastLine eol := by
  obtain ⟨offset, found⟩ := List.mem_iff_getElem?.mp member
  obtain ⟨inside, _⟩ := List.getElem?_eq_some_iff.mp found
  rw [line_of_layout found, Token.lastLine]
  omega

/-- What two tokens are cut into is in order if the second begins no higher than the first ends. -/
theorem forall_layout_le_iff :
    (∀ piece ∈ Slot.layout eol { token := before }, ∀ piece' ∈ Slot.layout eol { token := after },
      piece.line ≤ piece'.line) ↔
    (Slot.layout eol { token := before } ≠ [] → Slot.layout eol { token := after } ≠ [] →
      before.lastLine eol ≤ after.line) := by
  constructor
  · intro ordered some some'
    have last := List.length_pos_iff.mpr some
    have first := List.length_pos_iff.mpr some'
    have order := ordered _ (List.getElem_mem (Nat.sub_one_lt_of_lt last)) _ (List.getElem_mem first)
    rw [line_of_layout (List.getElem?_eq_getElem (Nat.sub_one_lt_of_lt last)),
      line_of_layout (List.getElem?_eq_getElem first)] at order
    exact order
  · intro order piece member piece' member'
    have first := line_le_of_mem_layout member'
    exact (line_le_lastLine member).trans
      ((order (List.ne_nil_of_mem member) (List.ne_nil_of_mem member')).trans first)

/-- Cut lines are in order where every token leaves those before it room for their lines. -/
theorem pairwise_splitLineBreaks_iff (valid : file.Valid) :
    file.splitLineBreaks.tokens.Pairwise (·.line ≤ ·.line) ↔ file.Unfolds := by
  have sorted : file.tokens.Pairwise (·.line ≤ ·.line) :=
    List.pairwise_map.mp (List.pairwise_cons.mp (List.isChain_iff_pairwise.mp valid.lines)).2
  have cut : file.splitLineBreaks.tokens.Pairwise (·.line ≤ ·.line) ↔
      file.tokens.Pairwise fun before after => Slot.layout file.eol { token := before } ≠ [] →
        Slot.layout file.eol { token := after } ≠ [] → before.lastLine file.eol ≤ after.line := by
    rw [splitLineBreaks_tokens, List.pairwise_map]
    simp only [rescope, List.pairwise_flatten, cuts, List.map_map, List.pairwise_map,
      Function.comp_apply, forall_layout_le_iff, List.forall_mem_map, pairwise_layout, implies_true,
      true_and]
  rw [cut]
  constructor
  · intro ordered
    refine (ordered.and sorted).imp ?_
    rintro before after ⟨order, lines⟩ some'
    by_cases some : Slot.layout file.eol { token := before } = []
    · rw [Token.lastLine, some]
      exact lines
    · exact order some some'
  · intro unfolds
    refine List.Pairwise.imp ?_ unfolds
    intro before after order _
    exact order

theorem splitLineBreaks_lines (valid : file.Valid) :
    ∀ token ∈ file.splitLineBreaks.tokens, 1 ≤ token.line := by
  intro token member
  obtain ⟨slot, listed, laid, inside, rfl⟩ := mem_ofSlots member
  obtain ⟨original, there, rfl⟩ := List.mem_map.mp listed
  exact (valid.one_le_line original there).trans (line_le_of_mem_layout inside)

/-- The order of lines is all that a cut can spoil. -/
theorem splitLineBreaks_valid_iff (valid : file.Valid) :
    file.splitLineBreaks.Valid ↔ file.Unfolds := by
  rw [← pairwise_splitLineBreaks_iff valid]
  constructor
  · intro cut
    exact List.pairwise_map.mp (List.pairwise_cons.mp (List.isChain_iff_pairwise.mp cut.lines)).2
  · intro ordered
    refine ⟨valid.eol_ne, List.isChain_iff_pairwise.mpr (List.pairwise_cons.mpr ⟨?_, ?_⟩), ?_⟩
    · exact List.forall_mem_map.mpr (splitLineBreaks_lines valid)
    · exact List.pairwise_map.mpr ordered
    · exact fun token member => scopesBelow_ofSlots member

theorem exists_of_ofDump (opened : ofDump text = .ok loaded) :
    ∃ file, parseDump text = .ok file ∧ file.validate = .ok () ∧ loaded = file.splitLineBreaks := by
  unfold ofDump at opened
  split at opened
  · cases opened
  · next file parsed =>
    split at opened
    · cases opened
    · next valid => exact ⟨file, parsed, valid, (Except.ok.inj opened).symm⟩

/-- The dump of a loaded file is loaded as that file if the file is valid. -/
theorem ofDump_dump_iff (words : ∀ token ∈ loaded.tokens, token.InWords)
    (canonical : loaded.Canonical) : ofDump loaded.dump = .ok loaded ↔ loaded.validate = .ok () := by
  rw [ofDump, parseDump_dump words]
  cases valid : loaded.validate with
  | error fault => simp [valid]
  | ok =>
    have sound := validate_eq_ok_iff.mp valid
    simp [valid, splitLineBreaks_eq_self sound.eol_ne canonical sound.scopes]

/-- A loaded file has a line ending, no line 0 and scopes in range. It is valid, and its own dump is
loaded as that file, unless white space in the dump was packed onto lines that other tokens begin on. -/
theorem ofDump_again (opened : ofDump text = .ok loaded)
    (words : ∀ token ∈ loaded.tokens, token.InWords) :
    ∃ file, parseDump text = .ok file ∧ loaded.eol ≠ "" ∧
      (∀ token ∈ loaded.tokens, 1 ≤ token.line ∧ token.ScopesBelow loaded.tokens.length) ∧
      (loaded.validate = .ok () ↔ file.Unfolds) ∧
      (ofDump loaded.dump = .ok loaded ↔ file.Unfolds) := by
  obtain ⟨file, parsed, accepted, rfl⟩ := exists_of_ofDump opened
  have valid := validate_eq_ok_iff.mp accepted
  have canonical : file.splitLineBreaks.Canonical := canonical_ofSlots valid.eol_ne _
  have again : file.splitLineBreaks.validate = .ok () ↔ file.Unfolds :=
    validate_eq_ok_iff.trans (splitLineBreaks_valid_iff valid)
  refine ⟨file, parsed, valid.eol_ne, ?_, again, (ofDump_dump_iff words canonical).trans again⟩
  intro token member
  exact ⟨splitLineBreaks_lines valid token member, scopesBelow_ofSlots member⟩

/-- White space of two lines on a line on which a token behind it begins. -/
def crowdedLine : TokenFile where
  tokens := [
    { kind := .whitespace, line := 1, content := "\n\n" },
    { kind := .other, line := 1, content := "x" }]

/-- The file is loaded, but it is not valid then, and its own dump is refused. -/
theorem ofDump_again_crowdedLine :
    let dump := "[\"\\n\",[[\"whitespace\",1,\"\\n\\n\"],[\"other\",1,\"x\"]]]"
    let loaded := crowdedLine.splitLineBreaks
    ofDump dump = .ok loaded ∧ (∀ token ∈ loaded.tokens, token.InWords) ∧
      loaded.validate = .error (.lineBehind 2 1 2) ∧ ofDump loaded.dump ≠ .ok loaded := by
  intro dump loaded
  have parsed : parseDump dump = .ok crowdedLine := by decide +kernel
  have opened : ofDump dump = .ok loaded := by decide +kernel
  have words : ∀ token ∈ loaded.tokens, token.InWords := by decide +kernel
  obtain ⟨file, found, _, _, _, again⟩ := ofDump_again opened words
  obtain rfl := Except.ok.inj (parsed.symm.trans found)
  exact ⟨opened, words, by decide +kernel, mt again.mp (by decide +kernel)⟩

end TokenFile

end BlankLines
