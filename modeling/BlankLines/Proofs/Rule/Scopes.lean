import BlankLines.Proofs.Rule.BraceSpacing
import BlankLines.Proofs.Rule.MethodSpacing

/-!
Scopes as braces nest them, and the one place where the two rules can ask for different numbers of blank
lines: behind the opening brace of a body that begins on the line on which a method ends.
-/
namespace BlankLines.TokenFile

open BraceSpacing MethodSpacing

def kindAt (file : TokenFile) (position : Nat) : Option TokenKind :=
  file.tokens[position]?.map (·.kind)

/-- The scopes of declarations are braces, those of classes and interfaces do not cross, and there is
code in each body of a class or an interface. -/
structure Bracketed (file : TokenFile) : Prop where
  bodies : ∀ body ∈ bodies file,
    file.kindAt body.1 = some .openBrace ∧ file.kindAt body.2 = some .closeBrace
  methods : ∀ token ∈ file.tokens, token.kind = .functionDecl →
    token.scopeCloser.all (file.kindAt · = some .closeBrace) = true
  nested : ∀ body ∈ BraceSpacing.bodies file, ∀ other ∈ BraceSpacing.bodies file,
    body.1 < other.1 → other.1 < body.2 → other.2 ≤ body.2
  inhabited : ∀ body ∈ BraceSpacing.bodies file,
    ∃ position < body.2, body.1 < position ∧ file.solidAt position = true

/-- In a file without interfaces a body opens on the line on which a method ends, behind the method and
with no other body closing in between. What comes first in the body is neither exempt from the rule for
opening braces nor a closing brace. -/
def Contested (file : TokenFile) : Prop :=
  declaresInterface file = false ∧ ∃ closer ∈ ends file, ∃ body ∈ bodies file,
    closer < body.1 ∧ ∑ position ∈ Finset.Ico closer body.1, file.breaksOf position = 0 ∧
      (∀ other ∈ bodies file, closer < other.2 → body.1 ≤ other.2) ∧
      ∃ high < file.tokens.length, file.Adjoin body.1 high ∧
        (file.kindAt high).all (fun kind => !hugsOpening kind && kind ≠ .closeBrace) = true

instance (file : TokenFile) : Decidable file.Bracketed :=
  decidable_of_iff ((∀ body ∈ bodies file,
        file.kindAt body.1 = some .openBrace ∧ file.kindAt body.2 = some .closeBrace) ∧
      (∀ token ∈ file.tokens, token.kind = .functionDecl →
        token.scopeCloser.all (file.kindAt · = some .closeBrace) = true) ∧
      (∀ body ∈ bodies file, ∀ other ∈ bodies file,
        body.1 < other.1 → other.1 < body.2 → other.2 ≤ body.2) ∧
      ∀ body ∈ bodies file, ∃ position < body.2, body.1 < position ∧ file.solidAt position = true)
    ⟨fun ⟨braces, methods, nested, inhabited⟩ => ⟨braces, methods, nested, inhabited⟩,
      fun bracketed => ⟨bracketed.bodies, bracketed.methods, bracketed.nested, bracketed.inhabited⟩⟩

instance (file : TokenFile) : Decidable file.Contested :=
  inferInstanceAs (Decidable (_ ∧ ∃ closer ∈ ends file, ∃ body ∈ bodies file, _))

variable {file : TokenFile} {corrections : List Correction} {kind : TokenKind} {position : Nat}

theorem solidAt_of_kindAt (is : file.kindAt position = some kind) (solid : kind ≠ .whitespace) :
    file.solidAt position = true := by
  obtain ⟨token, found, same⟩ := Option.map_eq_some_iff.mp is
  exact solidAt_iff.mpr ⟨token, found, solid_of_kind same solid⟩

theorem kindAt_moved (solid : file.solidAt position = true) (corrections : List Correction) :
    (file.revise corrections).kindAt (file.moved corrections position) = file.kindAt position := by
  obtain ⟨token, found, isSolid⟩ := solidAt_iff.mp solid
  rw [kindAt, kindAt, getElem?_revise corrections found isSolid, found]
  rfl

namespace Bracketed

theorem bracesSolid (bracketed : file.Bracketed) : BracesSolid file := by
  intro body member
  obtain ⟨opens, closes⟩ := bracketed.bodies body member
  exact ⟨solidAt_of_kindAt opens (by decide), solidAt_of_kindAt closes (by decide)⟩

theorem closersSolid (bracketed : file.Bracketed) : ClosersSolid file := by
  intro token member kind
  have closes := bracketed.methods token member kind
  cases scope : token.scopeCloser with
  | none => rfl
  | some closer =>
    rw [scope, Option.all_some, decide_eq_true_eq] at closes
    exact solidAt_of_kindAt closes (by decide)

theorem revise (bracketed : file.Bracketed) (corrections : List Correction) :
    (file.revise corrections).Bracketed where
  bodies := by
    rintro ⟨opener', closer'⟩ body
    obtain ⟨opener, closer, original, rfl, rfl⟩ := of_bodies_revise body
    obtain ⟨solidOpener, solidCloser⟩ := bracketed.bracesSolid _ original
    rw [kindAt_moved solidOpener, kindAt_moved solidCloser]
    exact bracketed.bodies _ original
  methods := by
    intro token' member kind
    obtain ⟨position', found⟩ := List.mem_iff_getElem?.mp member
    obtain ⟨token, position, original, _, _, same, _, scope⟩ :=
      exists_of_getElem?_revise found (solid_of_kind kind (by decide))
    have closes := bracketed.methods token (List.mem_of_getElem? original) (same.symm.trans kind)
    rw [scope]
    cases brace : token.scopeCloser with
    | none => rfl
    | some closer =>
      rw [brace, Option.all_some, decide_eq_true_eq] at closes
      rw [Option.map_some, Option.all_some, decide_eq_true_eq,
        kindAt_moved (solidAt_of_kindAt closes (by decide)), closes]
  nested := by
    rintro ⟨opener', closer'⟩ body ⟨other', end'⟩ inside
    obtain ⟨opener, closer, original, rfl, rfl⟩ := of_bodies_revise body
    obtain ⟨other, stop, originalInside, rfl, rfl⟩ := of_bodies_revise inside
    obtain ⟨solidOpener, solidCloser⟩ := bracketed.bracesSolid _ original
    obtain ⟨solidOther, solidStop⟩ := bracketed.bracesSolid _ originalInside
    simp only [moved_lt_iff solidOpener solidOther, moved_lt_iff solidOther solidCloser]
    intro before within
    have nested := bracketed.nested _ original _ originalInside before within
    exact Nat.le_of_not_lt fun beyond =>
      Nat.not_lt_of_le nested ((moved_lt_iff solidCloser solidStop).mp beyond)
  inhabited := by
    rintro ⟨opener', closer'⟩ body
    obtain ⟨opener, closer, original, rfl, rfl⟩ := of_bodies_revise body
    obtain ⟨solidOpener, solidCloser⟩ := bracketed.bracesSolid _ original
    obtain ⟨position, below, above, solid⟩ := bracketed.inhabited _ original
    exact ⟨file.moved corrections position, moved_lt solid solidCloser below,
      moved_lt solidOpener solid above, (abreast_moved solid corrections).solid'⟩

end Bracketed

/-- Corrections that blank only spare line breaks bring no body onto the line on which a method ends. -/
theorem Contested.of_revise (laidOut : file.LaidOut) (bracketed : file.Bracketed)
    (spared : ∀ position, .delete position ∈ corrections → file.Spare position)
    (contested : (file.revise corrections).Contested) : file.Contested := by
  obtain ⟨plain, closer', ended, ⟨opener', stop'⟩, body, order, unbroken, apart, high', _, gap, kind⟩ :=
    contested
  rw [declaresInterface_revise] at plain
  obtain ⟨closer, original, rfl⟩ := exists_of_ends_revise ended
  obtain ⟨opener, stop, originalBody, rfl, rfl⟩ := of_bodies_revise body
  have solid := bracketed.closersSolid.ends original
  have solidOpener := (bracketed.bracesSolid _ originalBody).1
  obtain ⟨high, originalGap, rfl⟩ := gap.exists_of_revise solidOpener
  obtain ⟨_, solidHigh, _⟩ := adjoin_iff.mp originalGap
  have order := (moved_lt_iff solid solidOpener).mp order
  refine ⟨plain, closer, original, ⟨opener, stop⟩, originalBody, order, ?_, ?_, high,
    originalGap.high_lt, originalGap, ?_⟩
  · exact laidOut.unbroken_of_revise spared solid solidOpener (Nat.le_of_lt order) unbroken
  · rintro ⟨other, stop⟩ member behind
    have solidStop := (bracketed.bracesSolid _ member).2
    have apart := apart _ (bodies_revise member corrections) (moved_lt solid solidStop behind)
    exact Nat.le_of_not_lt fun before => Nat.not_lt_of_le apart (moved_lt solidStop solidOpener before)
  · rwa [kindAt_moved solidHigh] at kind

end BlankLines.TokenFile
