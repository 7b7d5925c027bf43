import BlankLines.Proofs.TokenFile.Walk
import BlankLines.Rule.Check

/-!
The checks of the rules carried out position by position. They fail where a search reads a token that is
not there, or where a repair cuts a list behind its end. None does: they report what the rules report.
-/
namespace BlankLines

/-- A step that may find nothing, and that fails when it reads out of range. -/
abbrev Walk (α : Type) := OptionT (Except OutOfRange) α

namespace Walk

variable {α β : Type}

/-- What is asked for in a way that cannot fail. -/
def ask (answer : Option α) : Walk α :=
  OptionT.mk (.ok answer)

theorem ask_bind (answer : Option α) (next : α → Option β) :
    (ask answer >>= fun found => ask (next found)) = ask (answer >>= next) := by
  cases answer <;> rfl

theorem ask_ite {c : Prop} [Decidable c] (first second : Option α) :
    (if c then ask first else ask second) = ask (if c then first else second) :=
  (apply_ite ask c first second).symm

end Walk

open Walk

/-- The items from a position on, which must not be behind the end. -/
def cutFrom (items : List Nat) (position : Nat) : Except OutOfRange (List Nat) :=
  if position ≤ items.length then .ok (items.drop position) else .error ⟨position⟩

def walkRepair (found wanted : Int) (anchor : Nat) (removable : List Nat) :
    Except OutOfRange Changeset :=
  if wanted < found then
    (cutFrom removable (removable.length - (found - wanted).toNat)).map (·.map .delete)
  else .ok (List.replicate (wanted - found).toNat (.insertNewline anchor))

theorem walkRepair_eq (found wanted : Int) (anchor : Nat) (removable : List Nat) :
    walkRepair found wanted anchor removable = .ok (gapRepair found wanted anchor removable) := by
  rw [walkRepair, gapRepair, cutFrom, if_pos (Nat.sub_le _ _)]
  split <;> rfl

theorem lift_walkRepair (found wanted : Int) (anchor : Nat) (removable : List Nat) :
    OptionT.lift (walkRepair found wanted anchor removable) =
      ask (some (gapRepair found wanted anchor removable)) := by
  rw [walkRepair_eq]
  rfl

theorem mk_walkNext (file : TokenFile) (kinds : List TokenKind) (start : Nat) (stop : Option Nat)
    (exclude : Bool) : OptionT.mk (file.walkNext kinds start stop exclude) =
      ask (file.findNext kinds start stop exclude) :=
  congrArg OptionT.mk (file.walkNext_eq kinds start stop exclude)

theorem mk_walkPrevious (file : TokenFile) (kinds : List TokenKind) (start : Nat) (stop : Option Nat)
    (exclude : Bool) : OptionT.mk (file.walkPrevious kinds start stop exclude) =
      ask (file.findPrevious kinds start stop exclude) :=
  congrArg OptionT.mk (file.walkPrevious_eq kinds start stop exclude)

namespace BraceSpacing

def walkOpening (wanted : Nat) (file : TokenFile) (declaration : String) (opener : Nat)
    (level : Level) : Walk Violation := do
  let brace ← ask file.tokens[opener]?
  let next ← OptionT.mk (file.walkNext [.whitespace] (opener + 1) none true)
  let follower ← ask file.tokens[next]?
  let found := follower.lineDelta brace - 1
  let wanted := Word.signed wanted
  if hugsOpening follower.kind || found = wanted then ask none
  else do
    let repair ← OptionT.lift (walkRepair found wanted opener (file.lineBreaks (opener + 1) next))
    ask (Violation.atToken? file opener RuleId.braceSpacing.name openingCode level
      (openingMessage declaration wanted found) repair)

def walkClosing (wanted : Nat) (file : TokenFile) (declaration : String) (closer : Nat)
    (level : Level) : Walk Violation := do
  let brace ← ask file.tokens[closer]?
  let previous ←
    if closer = 0 then ask none
    else OptionT.mk (file.walkPrevious [.whitespace] (closer - 1) none true)
  let leader ← ask file.tokens[previous]?
  let found := brace.lineDelta leader - 1
  let wanted := Word.signed wanted
  if found = wanted then ask none
  else do
    let repair ← OptionT.lift (walkRepair found wanted previous (file.lineBreaks (previous + 1) closer))
    ask (Violation.atToken? file closer RuleId.braceSpacing.name closingCode level
      (closingMessage declaration wanted found) repair)

def walk (afterOpening beforeClosing : Nat) (file : TokenFile) (position : Nat) (level : Level) :
    Except OutOfRange (List Violation) :=
  match file.tokens[position]? with
  | some { content, scopeOpener := some opener, scopeCloser := some closer, .. } => do
    let first ← (walkOpening afterOpening file content opener level).run
    let second ← (walkClosing beforeClosing file content closer level).run
    return first.toList ++ second.toList
  | _ => .ok []

theorem walkOpening_eq (wanted : Nat) (file : TokenFile) (declaration : String) (opener : Nat)
    (level : Level) : walkOpening wanted file declaration opener level =
      ask (checkOpening wanted file declaration opener level) := by
  simp only [walkOpening, checkOpening, mk_walkNext, lift_walkRepair, ask_bind, ask_ite,
    Option.bind_eq_bind, Option.bind_some]

theorem walkClosing_eq (wanted : Nat) (file : TokenFile) (declaration : String) (closer : Nat)
    (level : Level) : walkClosing wanted file declaration closer level =
      ask (checkClosing wanted file declaration closer level) := by
  simp only [walkClosing, checkClosing, mk_walkPrevious, lift_walkRepair, ask_bind, ask_ite,
    Option.bind_eq_bind, Option.bind_some]

theorem walk_eq (afterOpening beforeClosing : Nat) (file : TokenFile) (position : Nat)
    (level : Level) : walk afterOpening beforeClosing file position level =
      .ok (check afterOpening beforeClosing file position level) := by
  rw [walk, check]
  cases file.tokens[position]? with
  | none => rfl
  | some token =>
    obtain ⟨kind, line, content, opener, closer⟩ := token
    cases opener with
    | none => rfl
    | some opener =>
      cases closer with
      | none => rfl
      | some closer =>
        dsimp only
        rw [walkOpening_eq, walkClosing_eq]
        rfl

end BraceSpacing

namespace MethodSpacing

def walkCloser (file : TokenFile) (position : Nat) : Walk Nat := do
  let token ← ask file.tokens[position]?
  match token.scopeCloser with
  | some closer => ask (some closer)
  | none => OptionT.mk (file.walkNext [.semicolon] position none false)

def walkContent (file : TokenFile) (start : Option Nat) : Walk Nat := do
  let start ← ask start
  OptionT.mk (file.walkNext [.whitespace] start none true)

def walk (between : Nat) (file : TokenFile) (position : Nat) (level : Level) :
    Except OutOfRange (List Violation) := do
  let interface ← file.walkNext [.interfaceDecl] 0 none false
  if interface.isSome then return []
  else
    match ← (walkCloser file position).run with
    | none => return []
    | some closer =>
      let start := nextLineStart? file closer
      let content ← (walkContent file start).run
      let wanted := Word.signed between
      let found := (do
        let first ← file.tokens[← start]?
        let last ← file.tokens[← content]?
        return last.lineDelta first : Option Int).getD wanted
      if (content.bind (file.tokens[·]?)).any (·.kind = .closeBrace) || found = wanted then return []
      else
        let anchor := match content.or start with
          | some position => max (position - 2) closer
          | none => closer
        let repair ← walkRepair found wanted anchor
          (file.lineBreaks (closer + 1) (content.getD file.tokens.length))
        return (Violation.atToken? file position RuleId.methodSpacing.name code level
          (message wanted found) repair).toList

theorem walkCloser_eq (file : TokenFile) (position : Nat) :
    walkCloser file position = ask (closer? file position) := by
  rw [walkCloser, closer?, ← ask_bind]
  congr 1
  funext token
  cases token.scopeCloser with
  | none => rw [mk_walkNext, Option.none_or]
  | some closer => rw [Option.some_or]

theorem walkContent_eq (file : TokenFile) (closer : Nat) :
    walkContent file (nextLineStart? file closer) = ask (nextContent? file closer) := by
  simp only [walkContent, nextContent?, mk_walkNext, ask_bind]

theorem walk_eq (between : Nat) (file : TokenFile) (position : Nat) (level : Level) :
    walk between file position level = .ok (check between file position level) := by
  rw [walk, check, file.walkNext_eq, walkCloser_eq, declaresInterface]
  change (if (file.findNext [.interfaceDecl] 0 none false).isSome = true then _ else _) = _
  split
  · rfl
  · cases closer? file position with
    | none => rfl
    | some closer =>
      change (walkContent file (nextLineStart? file closer)).run >>= _ = _
      rw [walkContent_eq]
      -- What is left does not search: it is the same computation on the closer and what follows it.
      change (if (isLast file closer || decide ((blankLines? file closer).getD (Word.signed between) =
        Word.signed between)) = true then _ else _) = _
      dsimp only
      split
      · rfl
      · rw [walkRepair_eq]
        rfl

end MethodSpacing

/-- What a rule reports at a position, found position by position. -/
def Rule.walk (rule : Rule) (file : TokenFile) (position : Nat) (level : Level) :
    Except OutOfRange (List Violation) :=
  match rule with
  | braceSpacing after before => BraceSpacing.walk after before file position level
  | methodSpacing between => MethodSpacing.walk between file position level

/-- No check reads out of range, whatever the file. -/
theorem Rule.walk_eq (rule : Rule) (file : TokenFile) (position : Nat) (level : Level) :
    rule.walk file position level = .ok (rule.check file position level) := by
  cases rule with
  | braceSpacing after before => exact BraceSpacing.walk_eq after before file position level
  | methodSpacing between => exact MethodSpacing.walk_eq between file position level

end BlankLines
