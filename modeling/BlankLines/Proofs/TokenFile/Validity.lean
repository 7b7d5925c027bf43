import BlankLines.Proofs.TokenFile.Scope
import BlankLines.TokenFile.Validity

/-!
What validation accepts, and that every revision of a file with a line ending and no line 0 is accepted:
lines are counted upwards again and scopes are moved into range, whatever they were.
-/
namespace BlankLines.TokenFile

/-- There is a line ending, lines never decrease from 1 on, and scopes are in range. -/
structure Valid (file : TokenFile) : Prop where
  eol_ne : file.eol ≠ ""
  lines : (1 :: file.tokens.map (·.line)).IsChain (· ≤ ·)
  scopes : ∀ token ∈ file.tokens, token.ScopesBelow file.tokens.length

variable {file : TokenFile} {eol : String} {slot : Slot} {token : Token}

theorem find?_scopes_eq_none_iff {size : Nat} :
    ([token.scopeOpener, token.scopeCloser].filterMap id).find? (size ≤ ·) = none ↔
      token.ScopesBelow size := by
  cases token with
  | mk kind line content opener closer =>
    cases opener <;> cases closer <;> simp [Token.ScopesBelow, or_imp, forall_and]

theorem tokenFault_eq_none_iff {size position before : Nat} :
    tokenFault size position before token = none ↔
      before ≤ token.line ∧ token.ScopesBelow size := by
  rw [tokenFault]
  split
  · next behind => simp [Nat.not_le_of_lt behind]
  · next fitting =>
    rw [Option.map_eq_none_iff, find?_scopes_eq_none_iff]
    exact (and_iff_right (Nat.le_of_not_lt fitting)).symm

theorem firstFault_eq_none_iff {size position before : Nat} {tokens : List Token} :
    firstFault size position before tokens = none ↔
      (before :: tokens.map (·.line)).IsChain (· ≤ ·) ∧ ∀ token ∈ tokens, token.ScopesBelow size := by
  induction tokens generalizing position before with
  | nil => simp [firstFault]
  | cons token rest ih =>
    rw [firstFault, Option.or_eq_none_iff, ih, tokenFault_eq_none_iff]
    simp only [List.map_cons, List.isChain_cons_cons, List.forall_mem_cons]
    constructor
    · rintro ⟨⟨line, here⟩, lines, later⟩
      exact ⟨⟨line, lines⟩, here, later⟩
    · rintro ⟨⟨line, lines⟩, here, later⟩
      exact ⟨⟨line, here⟩, lines, later⟩

/-- Validation accepts the valid files and no others. -/
theorem validate_eq_ok_iff : file.validate = .ok () ↔ file.Valid := by
  have faultless : file.validate = .ok () ↔
      file.eol ≠ "" ∧ firstFault file.tokens.length 0 1 file.tokens = none := by
    rw [validate]
    split
    · next empty => simp [String.isEmpty_iff.mp empty]
    · next nonempty =>
      have nonempty : file.eol ≠ "" := by simpa using nonempty
      cases firstFault file.tokens.length 0 1 file.tokens <;> simp [nonempty]
  rw [faultless, firstFault_eq_none_iff]
  constructor
  · rintro ⟨nonempty, lines, scopes⟩
    exact ⟨nonempty, lines, scopes⟩
  · intro valid
    exact ⟨valid.eol_ne, valid.lines, valid.scopes⟩

theorem Valid.one_le_line (valid : file.Valid) : ∀ token ∈ file.tokens, 1 ≤ token.line := by
  intro token member
  have sorted := List.isChain_iff_pairwise.mp valid.lines
  exact (List.pairwise_cons.mp sorted).1 _ (List.mem_map_of_mem member)

theorem line_le_of_mem_blankTokens {line : Nat} {contents : List String}
    (member : token ∈ Slot.blankTokens line contents) : line ≤ token.line := by
  obtain ⟨pair, listed, rfl⟩ := List.mem_map.mp member
  exact List.le_snd_of_mem_zipIdx listed

/-- A token is laid out on its own line and behind it. -/
theorem line_le_of_mem_layout (member : token ∈ slot.layout eol) : slot.token.line ≤ token.line := by
  rw [Slot.layout] at member
  split at member
  · exact line_le_of_mem_blankTokens member
  · cases List.mem_cons.mp member with
    | inl same => exact same ▸ Nat.le_refl _
    | inr behind => exact (Nat.le_add_right _ _).trans (line_le_of_mem_blankTokens behind)

theorem numberFrom_lines {low line : Nat} (above : low ≤ line) (eol : List Char)
    (tokens : List Token) :
    (low :: (numberFrom eol line tokens).map (·.line)).IsChain (· ≤ ·) := by
  induction tokens generalizing low line with
  | nil => simp [numberFrom]
  | cons token rest ih =>
    simp only [numberFrom, List.map_cons, List.isChain_cons_cons]
    exact ⟨above, ih (Nat.le_add_right _ _)⟩

/-- Whatever corrections are made, the finished file is valid. -/
theorem Valid.revise (valid : file.Valid) (corrections : List Correction) :
    (file.revise corrections).Valid where
  eol_ne := valid.eol_ne
  lines := by
    apply numberFrom_lines
    cases first : (ofSlots file.eol (file.slots corrections)).tokens.head? with
    | none => exact Nat.le_refl 1
    | some token =>
      obtain ⟨slot, listed, laid, inside, rfl⟩ := mem_ofSlots (List.mem_of_mem_head? first)
      obtain ⟨position, original, found, rfl⟩ := mem_slots listed
      have low := line_le_of_mem_layout inside
      rw [slotAt_token] at low
      exact (valid.one_le_line original (List.mem_of_getElem? found)).trans low
  scopes := by
    intro token member
    obtain ⟨original, there, same⟩ := mem_renumber member
    have below := scopesBelow_ofSlots there
    rw [TokenFile.revise, length_renumber, same]
    exact below

end BlankLines.TokenFile
