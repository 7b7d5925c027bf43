import BlankLines.Proofs.Text.Number
import BlankLines.Proofs.TokenFile.Validity
import Mathlib.Data.List.Chain

/-!
What validation refuses. A file that is not valid is blamed for the lack of a line ending or, if it has
one, for the first of its tokens that is at fault. The text of a fault tells which fault it is.
-/
namespace BlankLines

namespace FileFault

variable {fault : FileFault}

theorem message_lineBehind (position line before : Nat) :
    message (.lineBehind position line before) = "token " ++ (toString position ++
      (" is on line " ++ (toString line ++ (" after a token on line " ++ toString before)))) := by
  simp only [message, String.append_assoc]
  rfl

theorem message_scopeOutside (position scope size : Nat) :
    message (.scopeOutside position scope size) = "token " ++ (toString position ++
      (" points at scope position " ++ (toString scope ++ (", but the file has " ++
        (toString size ++ " tokens"))))) := by
  simp only [message, String.append_assoc]
  rfl

theorem message_lineBehind_inj {position line before position' line' before' : Nat}
    (same : message (.lineBehind position line before) =
      message (.lineBehind position' line' before')) :
    position = position' ∧ line = line' ∧ before = before' := by
  rw [message_lineBehind, message_lineBehind] at same
  obtain ⟨positions, same⟩ :=
    Text.number_append_inj (by simp) (by simp) ((String.append_right_inj _).mp same)
  obtain ⟨lines, same⟩ :=
    Text.number_append_inj (by simp) (by simp) ((String.append_right_inj _).mp same)
  have last := congrArg (· ++ "") ((String.append_right_inj _).mp same)
  exact ⟨positions, lines, (Text.number_append_inj rfl rfl last).1⟩

theorem message_scopeOutside_inj {position scope size position' scope' size' : Nat}
    (same : message (.scopeOutside position scope size) =
      message (.scopeOutside position' scope' size')) :
    position = position' ∧ scope = scope' ∧ size = size' := by
  rw [message_scopeOutside, message_scopeOutside] at same
  obtain ⟨positions, same⟩ :=
    Text.number_append_inj (by simp) (by simp) ((String.append_right_inj _).mp same)
  obtain ⟨scopes, same⟩ :=
    Text.number_append_inj (by simp) (by simp) ((String.append_right_inj _).mp same)
  have last := (String.append_right_inj _).mp same
  exact ⟨positions, scopes, (Text.number_append_inj (by decide) (by decide) last).1⟩

theorem message_lineBehind_ne {position line before position' scope size : Nat} :
    message (.lineBehind position line before) ≠ message (.scopeOutside position' scope size) := by
  intro same
  rw [message_lineBehind, message_scopeOutside] at same
  obtain ⟨-, same⟩ := Text.number_append_inj (by simp) (by simp) ((String.append_right_inj _).mp same)
  -- Both go on with a blank: " is" and " points".
  have second := congrArg (·.toList[1]?) same
  simp at second

theorem eq_emptyEol_of_message (same : fault.message = message .emptyEol) : fault = .emptyEol := by
  cases fault with
  | emptyEol => rfl
  | lineBehind =>
    rw [message_lineBehind] at same
    have first := congrArg (·.toList.head?) same
    simp [message] at first
  | scopeOutside =>
    rw [message_scopeOutside] at same
    have first := congrArg (·.toList.head?) same
    simp [message] at first

/-- The text of a fault tells its kind and its numbers. -/
theorem message_injective : Function.Injective message := by
  intro fault fault' same
  cases fault with
  | emptyEol => exact (eq_emptyEol_of_message same.symm).symm
  | lineBehind position line before =>
    cases fault' with
    | emptyEol => exact eq_emptyEol_of_message same
    | lineBehind =>
      obtain ⟨rfl, rfl, rfl⟩ := message_lineBehind_inj same
      rfl
    | scopeOutside => exact absurd same message_lineBehind_ne
  | scopeOutside position scope size =>
    cases fault' with
    | emptyEol => exact eq_emptyEol_of_message same
    | lineBehind => exact absurd same.symm message_lineBehind_ne
    | scopeOutside =>
      obtain ⟨rfl, rfl, rfl⟩ := message_scopeOutside_inj same
      rfl

end FileFault

namespace TokenFile

/-- The line of the last token in front of a position, and `start` if there is none. -/
def lineBefore (start : Nat) (tokens : List Token) (position : Nat) : Nat :=
  (tokens.take position).getLast?.elim start (·.line)

/-- What is wrong with a token that stands behind line `before` in a file of `size` tokens. Its line is
told before its scopes, and its opener before its closer. -/
inductive TokenFault (size before position : Nat) (token : Token) : FileFault → Prop
  | line (behind : token.line < before) :
    TokenFault size before position token (.lineBehind position token.line before)
  | opener {scope : Nat} (fitting : before ≤ token.line) (opens : token.scopeOpener = some scope)
      (outside : size ≤ scope) :
    TokenFault size before position token (.scopeOutside position scope size)
  | closer {scope : Nat} (fitting : before ≤ token.line)
      (inside : ∀ opener, token.scopeOpener = some opener → opener < size)
      (closes : token.scopeCloser = some scope) (outside : size ≤ scope) :
    TokenFault size before position token (.scopeOutside position scope size)

/-- What is wrong with the token at a position. The first token stands behind line 1. -/
def FaultAt (file : TokenFile) (position : Nat) (fault : FileFault) : Prop :=
  ∃ token, file.tokens[position]? = some token ∧
    TokenFault file.tokens.length (lineBefore 1 file.tokens position) position token fault

/-- What a file is blamed for: that it has no line ending, or else the fault of the first position that
has one. -/
inductive Blames (file : TokenFile) : FileFault → Prop
  | eol (empty : file.eol = "") : file.Blames .emptyEol
  | token {position : Nat} {fault : FileFault} (ending : file.eol ≠ "")
      (earlier : ∀ place < position, ∀ other, ¬ file.FaultAt place other)
      (faulty : file.FaultAt position fault) : file.Blames fault

variable {file : TokenFile} {fault : FileFault} {token : Token} {tokens : List Token}
  {size position before : Nat}

theorem lineBefore_succ (start : Nat) (token : Token) (rest : List Token) (position : Nat) :
    lineBefore start (token :: rest) (position + 1) = lineBefore token.line rest position := by
  rw [lineBefore, lineBefore, List.take_succ_cons, List.getLast?_cons, Option.elim_some]
  cases (rest.take position).getLast? <;> rfl

/-- The scope that is told is the opener if that is outside, and else the closer. -/
theorem find?_scopes_eq_some_iff {scope : Nat} :
    ([token.scopeOpener, token.scopeCloser].filterMap id).find? (size ≤ ·) = some scope ↔
      (token.scopeOpener = some scope ∧ size ≤ scope) ∨
        (∀ opener, token.scopeOpener = some opener → opener < size) ∧
          token.scopeCloser = some scope ∧ size ≤ scope := by
  have present : [token.scopeOpener, token.scopeCloser].filterMap id =
      token.scopeOpener.toList ++ token.scopeCloser.toList := by
    cases token.scopeOpener <;> cases token.scopeCloser <;> rfl
  have chosen (scope? : Option Nat) : scope?.toList.find? (size ≤ ·) = scope?.filter (size ≤ ·) := by
    cases scope? <;> simp [Option.filter]
  rw [present, List.find?_append, chosen, chosen, Option.or_eq_some_iff, Option.filter_eq_some_iff,
    Option.filter_eq_some_iff, Option.filter_eq_none_iff]
  simp only [decide_eq_true_eq, Nat.not_le]

theorem tokenFault_eq_some_iff : tokenFault size position before token = some fault ↔
    TokenFault size before position token fault := by
  rw [tokenFault]
  split
  · next behind =>
    rw [Option.some.injEq]
    constructor
    · rintro rfl
      exact .line behind
    · rintro (_ | ⟨fitting, _, _⟩ | ⟨fitting, _, _, _⟩)
      · rfl
      · exact absurd fitting (Nat.not_le_of_lt behind)
      · exact absurd fitting (Nat.not_le_of_lt behind)
  · next fitting =>
    have fitting := Nat.le_of_not_lt fitting
    rw [Option.map_eq_some_iff]
    constructor
    · rintro ⟨scope, told, rfl⟩
      rcases find?_scopes_eq_some_iff.mp told with ⟨opens, outside⟩ | ⟨inside, closes, outside⟩
      · exact .opener fitting opens outside
      · exact .closer fitting inside closes outside
    · rintro (behind | ⟨_, opens, outside⟩ | ⟨_, inside, closes, outside⟩)
      · exact absurd behind (Nat.not_lt_of_le fitting)
      · exact ⟨_, find?_scopes_eq_some_iff.mpr (.inl ⟨opens, outside⟩), rfl⟩
      · exact ⟨_, find?_scopes_eq_some_iff.mpr (.inr ⟨inside, closes, outside⟩), rfl⟩

/-- The first fault of some tokens is that of one of them, where all in front of it have none. -/
theorem firstFault_eq_some_iff : firstFault size position before tokens = some fault ↔
    ∃ offset token, tokens[offset]? = some token ∧
      tokenFault size (position + offset) (lineBefore before tokens offset) token = some fault ∧
      ∀ place < offset, ∀ other, tokens[place]? = some other →
        tokenFault size (position + place) (lineBefore before tokens place) other = none := by
  induction tokens generalizing position before with
  | nil => simp [firstFault]
  | cons token rest ih =>
    have next (place : Nat) : position + (place + 1) = position + 1 + place := by omega
    rw [firstFault, Option.or_eq_some_iff, ih]
    constructor
    · rintro (faulty | ⟨fine, offset, other, found, faulty, earlier⟩)
      · exact ⟨0, token, rfl, faulty, fun _ below => absurd below (Nat.not_lt_zero _)⟩
      · refine ⟨offset + 1, other, found, ?_, fun place below another there => ?_⟩
        · rwa [lineBefore_succ, next]
        · cases place with
          | zero => exact Option.some.inj there ▸ fine
          | succ place =>
            rw [lineBefore_succ, next]
            exact earlier place (by omega) another there
    · rintro ⟨offset, other, found, faulty, earlier⟩
      cases offset with
      | zero => exact .inl (Option.some.inj found ▸ faulty)
      | succ offset =>
        refine .inr ⟨earlier 0 (by omega) token rfl, offset, other, found, ?_,
          fun place below another there => ?_⟩
        · rwa [lineBefore_succ, next] at faulty
        · have fine := earlier (place + 1) (by omega) another there
          rwa [lineBefore_succ, next] at fine

theorem forall_not_faultAt_iff : (∀ fault, ¬ file.FaultAt position fault) ↔
    ∀ token, file.tokens[position]? = some token →
      tokenFault file.tokens.length position (lineBefore 1 file.tokens position) token = none := by
  simp only [FaultAt, not_exists, not_and, Option.eq_none_iff_forall_ne_some, ne_eq,
    tokenFault_eq_some_iff]
  exact ⟨fun faultless token found fault => faultless fault token found,
    fun faultless fault token found => faultless token found fault⟩

theorem firstFault_tokens_eq_some_iff :
    firstFault file.tokens.length 0 1 file.tokens = some fault ↔ ∃ position,
      file.FaultAt position fault ∧ ∀ place < position, ∀ other, ¬ file.FaultAt place other := by
  simp only [firstFault_eq_some_iff, forall_not_faultAt_iff, Nat.zero_add, tokenFault_eq_some_iff]
  constructor
  · rintro ⟨position, token, found, faulty, earlier⟩
    exact ⟨position, ⟨token, found, faulty⟩, earlier⟩
  · rintro ⟨position, ⟨token, found, faulty⟩, earlier⟩
    exact ⟨position, token, found, faulty, earlier⟩

/-- Validation refuses a file with just the fault that the file is blamed for. -/
theorem validate_eq_error_iff : file.validate = .error fault ↔ file.Blames fault := by
  rw [validate]
  split
  · next empty =>
    have empty : file.eol = "" := String.isEmpty_iff.mp empty
    constructor
    · intro same
      exact Except.error.inj same ▸ .eol empty
    · rintro (_ | ⟨ending, _, _⟩)
      · rfl
      · exact absurd empty ending
  · next ending =>
    have ending : file.eol ≠ "" := by simpa using ending
    have blames_iff : file.Blames fault ↔
        firstFault file.tokens.length 0 1 file.tokens = some fault := by
      rw [firstFault_tokens_eq_some_iff]
      constructor
      · rintro (empty | ⟨_, earlier, faulty⟩)
        · exact absurd empty ending
        · exact ⟨_, faulty, earlier⟩
      · rintro ⟨position, faulty, earlier⟩
        exact .token ending earlier faulty
    rw [blames_iff]
    cases firstFault file.tokens.length 0 1 file.tokens <;> simp

theorem isChain_lines_iff : (1 :: tokens.map (·.line)).IsChain (· ≤ ·) ↔
    (∀ token ∈ tokens, 1 ≤ token.line) ∧
      tokens.IsChain fun token next => token.line ≤ next.line := by
  constructor
  · intro lines
    have low := (List.pairwise_cons.mp (List.isChain_iff_pairwise.mp lines)).1
    exact ⟨fun token member => low _ (List.mem_map_of_mem member), (List.isChain_map _).mp lines.tail⟩
  · rintro ⟨low, ascending⟩
    cases tokens with
    | nil => exact .singleton 1
    | cons token rest =>
      exact .cons_cons (low token List.mem_cons_self) ((List.isChain_map _).mpr ascending)

theorem valid_iff : file.Valid ↔ file.eol ≠ "" ∧ (∀ token ∈ file.tokens, 1 ≤ token.line) ∧
    file.tokens.IsChain (fun token next => token.line ≤ next.line) ∧
    ∀ token ∈ file.tokens, token.ScopesBelow file.tokens.length := by
  rw [← and_assoc (a := ∀ token ∈ file.tokens, 1 ≤ token.line), ← isChain_lines_iff]
  exact ⟨fun valid => ⟨valid.eol_ne, valid.lines, valid.scopes⟩,
    fun ⟨ending, lines, scopes⟩ => ⟨ending, lines, scopes⟩⟩

/-- Validation accepts just the files that have a line ending, where no token is before line 1 or before
the line of the token in front of it, and where every scope is a position of the file. It refuses any
other with what that file is blamed for, in a text that no other fault has. -/
theorem validate_blames_first (file : TokenFile) :
    (file.validate = .ok () ↔ file.eol ≠ "" ∧ (∀ token ∈ file.tokens, 1 ≤ token.line) ∧
      file.tokens.IsChain (fun token next => token.line ≤ next.line) ∧
      ∀ token ∈ file.tokens, token.ScopesBelow file.tokens.length) ∧
    (∀ fault, file.validate = .error fault ↔ file.Blames fault) ∧
    Function.Injective FileFault.message :=
  ⟨validate_eq_ok_iff.trans valid_iff, fun _ => validate_eq_error_iff, FileFault.message_injective⟩

/-- An earlier position is blamed before a later one, whatever the faults are. -/
example : validate { tokens := [
      { kind := .classDecl, line := 1, content := "class", scopeOpener := some 1, scopeCloser := some 9 },
      { kind := .openBrace, line := 0, content := "\x7b" }] } = .error (.scopeOutside 0 9 2) := by
  decide

end TokenFile

end BlankLines
