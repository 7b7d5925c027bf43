import BlankLines.Proofs.Linter.Settling
import BlankLines.Proofs.TokenFile.Landmark

/-!
A pass that has something to repair changes the text. It makes a correction in some gap, and all that it
makes there are of one kind: lines are added, or line breaks deleted. So a run goes on until nothing is
left to report.
-/
namespace BlankLines.Linter

open TokenFile

variable {linter : Linter} {file : TokenFile} {violation : Violation} {correction : Correction}
  {wanted anchor low high : Nat}

namespace Reads

end Reads

end BlankLines.Linter
