import BlankLines.Proofs.TokenFile.Validity

/-!
Files that a layout leaves as they are. White space is cut in every file that has been laid out, and
where it is, and the lines are those of the text, cutting and renumbering again change nothing.
-/
namespace BlankLines.TokenFile

/-- All white space is cut. -/
def Canonical (file : TokenFile) : Prop :=
  ∀ token ∈ file.tokens, token.isWhitespace = true → token.Cut file.eol

instance (file : TokenFile) : Decidable file.Canonical :=
  inferInstanceAs (Decidable (∀ token ∈ file.tokens, _))

variable {file : TokenFile} {eol : String} {slots : List Slot} {token : Token}

theorem canonical_ofSlots (nonempty : eol ≠ "") (slots : List Slot) :
    (ofSlots eol slots).Canonical := by
  intro token member white
  obtain ⟨slot, _, laid, inside, rfl⟩ := mem_ofSlots member
  have cut := Slot.layout_cut nonempty inside white
  exact ⟨cut.nonempty, cut.closing, by simp [rescope, cut.opener], by simp [rescope, cut.closer]⟩

theorem Canonical.renumber (canonical : file.Canonical) : file.renumber.Canonical := by
  intro token member white
  obtain ⟨original, there, same⟩ := mem_renumber member
  rw [same] at white ⊢
  have cut := canonical original there white
  exact ⟨cut.nonempty, cut.closing, cut.opener, cut.closer⟩

theorem canonical_revise (nonempty : file.eol ≠ "") (corrections : List Correction) :
    (file.revise corrections).Canonical :=
  (canonical_ofSlots nonempty _).renumber

theorem blankTokens_singleton (opener : token.scopeOpener = none) (closer : token.scopeCloser = none)
    (white : token.isWhitespace = true) :
    Slot.blankTokens token.line [token.content] = [token] := by
  cases token with
  | mk kind line content scopeOpener scopeCloser =>
    have kind : kind = .whitespace := of_decide_eq_true white
    simp_all [Slot.blankTokens]

/-- White space that is cut, and every solid token, is laid out as itself. -/
theorem layout_eq_singleton (nonempty : eol ≠ "")
    (cut : token.isWhitespace = true → token.Cut eol) : Slot.layout eol { token } = [token] := by
  have mark : eol.toList ≠ [] := by simpa using nonempty
  cases kind : token.isWhitespace with
  | true =>
    have cut := cut kind
    have some : token.content.toList ≠ [] := by simpa using cut.nonempty
    simp only [Slot.layout, kind, if_true, Text.pieces_eq_singleton mark some cut.closing,
      List.map_cons, List.map_nil, String.ofList_toList]
    exact blankTokens_singleton cut.opener cut.closer kind
  | false =>
    simp [Slot.layout, kind, Slot.blankTokens]

theorem relocate_singletons {tokens : List Token} {position : Nat} (inside : position < tokens.length) :
    relocate (tokens.map ([·])) position = position := by
  simp only [relocate, ← List.map_take, ← List.flatMap_def, List.flatMap_singleton', List.length_take]
  omega

theorem rescope_singletons {tokens : List Token} (below : token.ScopesBelow tokens.length) :
    rescope (tokens.map ([·])) token = token := by
  have stays (scope : Option Nat) (inside : ∀ place, scope = some place → place < tokens.length) :
      scope.map (relocate (tokens.map ([·]))) = scope := by
    cases scope with
    | none => rfl
    | some place => rw [Option.map_some, relocate_singletons (inside place rfl)]
  rw [rescope, stays _ fun place same => below place (.inl same),
    stays _ fun place same => below place (.inr same)]

/-- A canonical file whose scopes are in range has nothing to be cut. -/
theorem splitLineBreaks_eq_self (nonempty : file.eol ≠ "") (canonical : file.Canonical)
    (scopes : ∀ token ∈ file.tokens, token.ScopesBelow file.tokens.length) :
    file.splitLineBreaks = file := by
  -- Each token is laid out as itself, so every position is relocated to itself.
  have cuts : file.cuts = file.tokens.map ([·]) := by
    rw [TokenFile.cuts, List.map_map]
    exact List.map_congr_left fun token member =>
      layout_eq_singleton nonempty (canonical token member)
  have whole : file.cuts.flatten = file.tokens := by
    rw [cuts, ← List.flatMap_def, List.flatMap_singleton']
  have stays : file.tokens.map (rescope file.cuts) = file.tokens := by
    rw [cuts]
    exact (List.map_congr_left fun token member => rescope_singletons (scopes token member)).trans
      (List.map_id _)
  have tokens : file.splitLineBreaks.tokens = file.tokens := by
    rw [splitLineBreaks_tokens, whole, stays]
  exact congrArg (TokenFile.mk file.eol) tokens

theorem numberFrom_numberFrom (eol : List Char) (line other : Nat) (tokens : List Token) :
    numberFrom eol line (numberFrom eol other tokens) = numberFrom eol line tokens := by
  induction tokens generalizing line other with
  | nil => rfl
  | cons token rest ih => simp only [numberFrom, ih]

theorem renumber_renumber (file : TokenFile) : file.renumber.renumber = file.renumber := by
  cases file with
  | mk eol tokens =>
    cases tokens with
    | nil => rfl
    | cons token rest => simp [TokenFile.renumber, numberFrom, numberFrom_numberFrom]

/-- A revision has nothing left to be laid out or renumbered. -/
theorem Valid.revise_nil_revise (valid : file.Valid) (corrections : List Correction) :
    (file.revise corrections).revise [] = file.revise corrections := by
  have revised := valid.revise corrections
  rw [revise_nil, splitLineBreaks_eq_self revised.eol_ne (canonical_revise valid.eol_ne corrections)
    revised.scopes, TokenFile.revise, renumber_renumber]

end BlankLines.TokenFile
