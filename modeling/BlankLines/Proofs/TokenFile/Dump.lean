import BlankLines.Proofs.Json.Record
import BlankLines.Proofs.TokenFile.Canonical
import BlankLines.TokenFile.Dump

/-!
Dumps read back. The dump of a file whose lines and scopes are words is parsed as that file, with every
kind, content and scope, and is loaded as that file if there is nothing to refuse and nothing to cut.
-/
namespace BlankLines

open Json

section Members

variable {σ : Type} {field : σ → String → Reader σ} {state : σ} {name : String}

theorem readOnce_colon {α : Type} (item : Reader α) (text : List Char) :
    readOnce false item (':' :: text) = item text :=
  rfl

theorem compact_string (s : String) : compact (.string s) = printText s := by
  rw [compact]

theorem compact_ofNat (n : Nat) : compact (.ofNat n) = printNumber (.int n) := by
  rw [Value.ofNat, compact]

/-- A scope as it is written: left out where there is none. -/
def scopeMembers (name : String) (scope : Option Nat) : List (String × Value) :=
  scope.toList.map fun n => (name, .ofNat n)

/-- A scope that is left out is taken as well, for one that is absent. -/
theorem takes_scopeMembers {scope : Option Nat} (small : ∀ n, scope = some n → n < Word.size)
    (place : Option Nat → σ) (absent : place none = state)
    (reads : ∀ n rest, n < Word.size → endsNumber rest = true →
      field state name (':' :: (printNumber (.int n) ++ rest)) = .ok (place (some n), rest)) :
    Takes field state (scopeMembers name scope) (place scope) := by
  cases scope with
  | none =>
    rw [absent]
    exact .nil state
  | some n =>
    refine .cons _ (fun rest ends => ?_) (.nil _)
    rw [compact_ofNat]
    exact reads n rest (small n rfl) ends

end Members

namespace Token

/-- The line and the scopes are words of 64 bits. -/
def InWords (token : Token) : Prop :=
  token.line < Word.size ∧ token.ScopesBelow Word.size

instance (bound : Nat) (token : Token) : Decidable (token.ScopesBelow bound) :=
  decidable_of_iff _ TokenFile.find?_scopes_eq_none_iff

instance (token : Token) : Decidable token.InWords :=
  inferInstanceAs (Decidable (_ ∧ _))

def members (token : Token) : List (String × Value) :=
  [("kind", .string token.kind.name), ("line", .ofNat token.line),
    ("content", .string token.content)] ++
  scopeMembers "scope_opener" token.scopeOpener ++ scopeMembers "scope_closer" token.scopeCloser

theorem length_members_le (token : Token) : token.members.length ≤ 5 := by
  cases opener : token.scopeOpener <;> cases closer : token.scopeCloser <;>
    simp [members, scopeMembers, opener, closer]

end Token

variable {token : Token} {bound : Nat}

namespace TokenFields

theorem readKind_name (kind : TokenKind) (rest : List Char) :
    readKind (printText kind.name ++ rest) = .ok (kind, rest) := by
  simp only [readKind, readText_printText, bind, Except.bind, pure, Except.pure,
    TokenKind.ofName_name]

/-- The fields that every token has, as they are read. -/
def required (token : Token) : TokenFields where
  kind := some token.kind
  line := some token.line
  content := some token.content

/-- The fields of a token with these scopes. -/
def withScopes (token : Token) (opener closer : Option Nat) : TokenFields :=
  { required token with scopeOpener := opener.map some, scopeCloser := closer.map some }

theorem token?_withScopes (token : Token) :
    (withScopes token token.scopeOpener token.scopeCloser).token? = some token := by
  cases token with
  | mk kind line content opener closer => cases opener <;> cases closer <;> rfl

theorem takes_required (line : token.line < Word.size) :
    Takes (readField bound) {} [("kind", .string token.kind.name), ("line", .ofNat token.line),
      ("content", .string token.content)] (required token) := by
  refine .cons { kind := some token.kind } ?kind
    (.cons { kind := some token.kind, line := some token.line } ?line
      (.cons (required token) ?content (.nil _)))
  case kind =>
    intro rest _
    simp [readField, readOnce_colon, compact_string, readKind_name, bind, Except.bind, pure,
      Except.pure]
  case line =>
    intro rest ends
    simp [readField, readOnce_colon, compact_ofNat, readNat_printNumber line ends, bind, Except.bind,
      pure, Except.pure]
  case content =>
    intro rest _
    simp [readField, readOnce_colon, compact_string, readText_printText, required, bind, Except.bind,
      pure, Except.pure]

/-- The members of a token, with or without scopes, are taken for its fields. -/
theorem takes_members (words : token.InWords) :
    Takes (readField bound) {} token.members
      (withScopes token token.scopeOpener token.scopeCloser) := by
  obtain ⟨line, scopes⟩ := words
  have opener : Takes (readField bound) (required token)
      (scopeMembers "scope_opener" token.scopeOpener)
      (withScopes token token.scopeOpener none) := by
    refine takes_scopeMembers (fun n scope => scopes n (.inl scope)) (withScopes token · none) rfl ?_
    intro n rest word ends
    simp [readField, withScopes, required, readOnce_colon, readOptional_printNumber word ends, bind,
      Except.bind, pure, Except.pure]
  have closer : Takes (readField bound) (withScopes token token.scopeOpener none)
      (scopeMembers "scope_closer" token.scopeCloser)
      (withScopes token token.scopeOpener token.scopeCloser) := by
    refine takes_scopeMembers (fun n scope => scopes n (.inr scope))
      (withScopes token token.scopeOpener) rfl ?_
    intro n rest word ends
    simp [readField, withScopes, required, readOnce_colon, readOptional_printNumber word ends, bind,
      Except.bind, pure, Except.pure]
  exact ((takes_required line).append opener).append closer

end TokenFields

/-- What is written for a token is read as that token. -/
theorem Token.read_compact (words : token.InWords) (enough : 5 < bound) (rest : List Char) :
    Token.read bound (compact (.object token.members) ++ rest) = .ok (token, rest) := by
  have fields := readMembers_compactMembers (@TokenFields.takes_members _ bound words)
    (Nat.lt_of_le_of_lt token.length_members_le enough) rest
  rw [compact_object, Token.read, readRecord_brace, Token.readNamed, fields]
  simp only [bind, Except.bind, TokenFields.token?_withScopes]
  rfl

namespace TokenFile

variable {file : TokenFile}

def members (file : TokenFile) : List (String × Value) :=
  [("eol", .string file.eol), ("tokens", .array (file.tokens.map fun token => .object token.members))]

theorem dump_eq (file : TokenFile) : file.dump.toList = compact (.object file.members) :=
  String.toList_ofList

theorem length_le_laterItems (items : List Value) : items.length ≤ (laterItems items).length := by
  induction items with
  | nil => exact Nat.le_refl 0
  | cons item items ih =>
    simp only [laterItems, List.flatMap_cons, List.length_append, List.length_cons] at ih ⊢
    omega

/-- A dump is longer than the list of its tokens. -/
theorem length_tokens_lt_dump (file : TokenFile) : file.tokens.length < file.dump.toList.length := by
  have items : file.tokens.length ≤
      (compactItems (file.tokens.map fun token => .object token.members)).length + 1 := by
    cases file.tokens with
    | nil => exact Nat.zero_le _
    | cons token tokens =>
      have later := length_le_laterItems (tokens.map fun token => .object token.members)
      rw [List.map_cons, compactItems_cons, List.length_append]
      simp only [List.length_map, List.length_cons] at later ⊢
      omega
  rw [dump_eq]
  simp only [members, compact, compactMembers, List.length_append, List.length_cons]
  omega

theorem takes_members (words : ∀ token ∈ file.tokens, token.InWords)
    (enough : file.tokens.length < bound) (more : 5 < bound) :
    Takes (FileFields.readField bound) {} file.members
      { eol := some file.eol, tokens := some file.tokens } := by
  refine .cons { eol := some file.eol } ?eol (.cons _ ?tokens (.nil _))
  case eol =>
    intro rest _
    simp [FileFields.readField, readOnce_colon, compact_string, readText_printText, bind, Except.bind,
      pure, Except.pure]
  case tokens =>
    intro rest _
    have tokens := readList_compact (fun token member => Token.read_compact (words token member) more)
      enough rest
    simp [FileFields.readField, readOnce_colon, tokens, bind, Except.bind, pure, Except.pure]

/-- A dump is parsed as the file that it was made of. -/
theorem parseDump_dump (words : ∀ token ∈ file.tokens, token.InWords) :
    parseDump file.dump = .ok file := by
  have long := length_tokens_lt_dump file
  have text := (List.append_nil _).symm.trans (compact_object file.members [])
  rw [← dump_eq] at text
  have braces : 2 ≤ file.dump.toList.length := by
    rw [text, List.length_cons, List.length_append, List.length_singleton]
    omega
  have enough : file.tokens.length < stepBound file.dump.toList := by rw [stepBound]; omega
  have more : 5 < stepBound file.dump.toList := by rw [stepBound]; omega
  have fields := readMembers_compactMembers (takes_members words enough more)
    (show 2 < stepBound file.dump.toList by omega) []
  have read : readRecord (readNamed (stepBound file.dump.toList))
      (readListed (stepBound file.dump.toList)) file.dump.toList = .ok (file, []) := by
    generalize stepBound file.dump.toList = bound at fields ⊢
    rw [text, readRecord_brace, readNamed, fields]
    rfl
  rw [parseDump, readAll, read]
  rfl

/-- A valid file whose white space is cut is loaded from its dump as it stands. -/
theorem ofDump_dump (valid : file.validate = .ok ()) (canonical : file.Canonical)
    (words : ∀ token ∈ file.tokens, token.InWords) : ofDump file.dump = .ok file := by
  have sound := validate_eq_ok_iff.mp valid
  rw [ofDump, parseDump_dump words]
  simp only [valid, splitLineBreaks_eq_self sound.eol_ne canonical sound.scopes]

/-- Its text has to be escaped, its last line is the greatest word, and a scope points backwards. -/
def escapedText : TokenFile where
  eol := "\r\n"
  tokens := [
    { kind := .comment, line := 1, content := "/* \"\\\x01\x7f é😀 */", scopeCloser := some 2 },
    { kind := .whitespace, line := 1, content := " \t\r\n" },
    { kind := .other, line := 18446744073709551615, content := "", scopeOpener := some 0,
      scopeCloser := some 1 }]

theorem ofDump_dump_escapedText :
    escapedText.validate = .ok () ∧ escapedText.Canonical ∧
      (∀ token ∈ escapedText.tokens, token.InWords) ∧
      ofDump escapedText.dump = .ok escapedText := by
  have canonical : escapedText.Canonical := by decide +kernel
  have words : ∀ token ∈ escapedText.tokens, token.InWords := by decide +kernel
  exact ⟨rfl, canonical, words, ofDump_dump rfl canonical words⟩

end TokenFile

end BlankLines
