import BlankLines.Proofs.Linter.Progress
import BlankLines.Proofs.Rule.Scopes

/-!
Both rules together. Where they do not contest a gap, three passes leave nothing to report, and as each
pass before that changes the text, a run goes on until nothing is left. Where they contest a gap, each
undoes what the other did, up to the limit of passes.
-/
namespace BlankLines.Linter

open TokenFile BraceSpacing MethodSpacing

/-- The linter that runs both rules. -/
def both (afterOpening beforeClosing between : Nat) (braceLevel methodLevel : Level) : Linter where
  rules := [(.braceSpacing afterOpening beforeClosing, braceLevel),
    (.methodSpacing between, methodLevel)]

/-- What keeps the rules from fighting over a gap, and each pass from going unnoticed in the text. -/
structure Peaceful (afterOpening between : Nat) (file : TokenFile) : Prop where
  bracketed : file.Bracketed
  legible : file.Legible
  apart : afterOpening = between ∨ ¬ file.Contested

variable {file : TokenFile} {afterOpening beforeClosing between anchor wanted low high closer n : Nat}
  {braceLevel methodLevel : Level}

theorem Peaceful.pass {linter : Linter} (peaceful : Peaceful afterOpening between file)
    (reads : linter.Reads file) : Peaceful afterOpening between (linter.pass file) := by
  rw [pass_eq]
  exact {
    bracketed := peaceful.bracketed.revise _
    legible := peaceful.legible.revise fun _ => notMem_corrections_of_solidAt
    apart := peaceful.apart.imp_right fun uncontested contested => uncontested
      (contested.of_revise reads.laidOut peaceful.bracketed fun _ => reads.spared) }

theorem Peaceful.iterate {linter : Linter} (peaceful : Peaceful afterOpening between file)
    (reads : linter.Reads file)
    (small : ∀ m ≤ n, (linter.pass^[m] file).LinesBelow Word.half) :
    Peaceful afterOpening between (linter.pass^[n] file) := by
  induction n with
  | zero => exact peaceful
  | succ n ih =>
    have earlier := fun m early => small m (Nat.le_succ_of_le early)
    rw [Function.iterate_succ_apply']
    exact (ih earlier).pass (reads.iterate earlier)

end BlankLines.Linter
