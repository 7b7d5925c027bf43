import BlankLines.Proofs.Report.Simple
import BlankLines.Proofs.Run.Agreement

/-!
What a run prints and its exit code. Both are about the reports that the run comes to: it prints the text
on them, and the code is that for errors just if there are errors in them. A run that comes to no reports
stops with a code of its own.
-/
namespace BlankLines

namespace Run

open Report (Tells total)

/-- A run comes to reports in a format, having changed the tree. Without the flag for fixing they are on
all files that it lints. With it there is one, on what is left in the fixed file, whose text is written
if an output is named. -/
inductive ComesTo (arguments : Arguments) (current : Path) (tree : FileTree) :
    Format → List FileReport → FileTree → Option (Path × String) → Prop
  | linted {format : Format} {config : Config} {linter : Linter} {reports : List FileReport}
      (setUp : SetUp arguments current tree format config linter) (lints : arguments.fix = false)
      (found : linter.lintPath config tree current (current.join ⟨arguments.target⟩) = .ok reports) :
    ComesTo arguments current tree format reports tree none
  | fixed {format : Format} {config : Config} {linter : Linter} {file : TokenFile}
      (setUp : SetUp arguments current tree format config linter) (fixes : arguments.fix = true)
      (dump : tree.isDirectoryAt (current.join ⟨arguments.target⟩) = false)
      (loads : TokenFile.load tree (current.join ⟨arguments.target⟩) = .ok file)
      (keeps : arguments.output = none) :
    ComesTo arguments current tree format
      [⟨(current.join ⟨arguments.target⟩).text, (linter.fix file).remaining⟩] tree none
  | written {format : Format} {config : Config} {linter : Linter} {file : TokenFile} {output : String}
      {changed : FileTree} (setUp : SetUp arguments current tree format config linter)
      (fixes : arguments.fix = true)
      (dump : tree.isDirectoryAt (current.join ⟨arguments.target⟩) = false)
      (loads : TokenFile.load tree (current.join ⟨arguments.target⟩) = .ok file)
      (asks : arguments.output = some output)
      (writes : tree.writeText (current.join ⟨output⟩) (linter.fix file).file.render = .ok changed) :
    ComesTo arguments current tree format
      [⟨(current.join ⟨arguments.target⟩).text, (linter.fix file).remaining⟩] changed
      (some (current.join ⟨output⟩, (linter.fix file).file.render))

/-- A run has ended before there were reports. It has printed and changed nothing, and its code says so. -/
def Stops (tree : FileTree) (outcome : Outcome) : Prop :=
  ∃ code, (code = .failure ∨ code = .badConfig) ∧ outcome = { code, tree }

variable {arguments : Arguments} {current : Path} {tree changed : FileTree} {format : Format}
  {config : Config} {linter : Linter} {reports : List FileReport} {written : Option (Path × String)}

theorem stops_failure (tree : FileTree) : Stops tree { code := .failure, tree } :=
  ⟨.failure, .inl rfl, rfl⟩

theorem stops_badConfig (tree : FileTree) : Stops tree { code := .badConfig, tree } :=
  ⟨.badConfig, .inr rfl, rfl⟩

theorem any_hasErrors_iff (reports : List FileReport) :
    reports.any (·.hasErrors) = true ↔ 0 < total .error reports := by
  have flat : reports.any (·.hasErrors) = (reports.flatMap (·.violations)).any (·.isError) :=
    List.any_flatMap.symm
  rw [flat, List.any_eq_true, ← Report.errorCount_eq, Report.errorCount, List.countP_pos_iff]

theorem ComesTo.withArguments_eq (comes : ComesTo arguments current tree format reports changed written) :
    withArguments arguments current tree = finish arguments format reports changed written := by
  cases comes with
  | linted setUp lints found =>
    rw [setUp.withArguments_eq, lints, if_neg Bool.false_ne_true, lintTarget, found]
  | fixed setUp fixes dump loads keeps =>
    rw [setUp.withArguments_eq, if_pos fixes, fixFile, dump, if_neg Bool.false_ne_true, loads, keeps]
  | written setUp fixes dump loads asks writes =>
    rw [setUp.withArguments_eq, if_pos fixes, fixFile_of_dump dump loads asks writes,
      Linter.remaining_fix]

/-- Linting comes to reports unless a file does not load. -/
theorem SetUp.comesTo_or_stops_of_lint (setUp : SetUp arguments current tree format config linter)
    (lints : arguments.fix = false) :
    (∃ reports, ComesTo arguments current tree format reports tree none) ∨
      Stops tree (withArguments arguments current tree) := by
  rw [setUp.withArguments_eq, lints, if_neg Bool.false_ne_true, lintTarget]
  cases found : linter.lintPath config tree current (current.join ⟨arguments.target⟩) with
  | error fault => exact .inr (stops_failure tree)
  | ok reports => exact .inl ⟨reports, .linted setUp lints found⟩

/-- Fixing comes to a report unless there is no dump at the target or its text cannot be written. -/
theorem SetUp.comesTo_or_stops_of_fix (setUp : SetUp arguments current tree format config linter)
    (fixes : arguments.fix = true) :
    (∃ reports changed written, ComesTo arguments current tree format reports changed written) ∨
      Stops tree (withArguments arguments current tree) := by
  rw [setUp.withArguments_eq, if_pos fixes, fixFile]
  cases dump : tree.isDirectoryAt (current.join ⟨arguments.target⟩) with
  | true => exact .inr (stops_failure tree)
  | false =>
    rw [if_neg Bool.false_ne_true]
    cases loads : TokenFile.load tree (current.join ⟨arguments.target⟩) with
    | error fault => exact .inr (stops_failure tree)
    | ok file =>
      cases output : arguments.output with
      | none => exact .inl ⟨_, _, _, .fixed setUp fixes dump loads output⟩
      | some place =>
        dsimp only
        cases writes : tree.writeText (current.join ⟨place⟩) (linter.fix file).file.render with
        | error fault => exact .inr (stops_failure tree)
        | ok changed => exact .inl ⟨_, _, _, .written setUp fixes dump loads output writes⟩

theorem comesTo_or_stops (arguments : Arguments) (current : Path) (tree : FileTree) :
    (∃ format reports changed written,
      ComesTo arguments current tree format reports changed written) ∨
      Stops tree (withArguments arguments current tree) := by
  cases known : Format.ofName? arguments.format with
  | none =>
    rw [withArguments_of_no_format known]
    exact .inr (stops_failure tree)
  | some format =>
    cases read : readConfig arguments current tree with
    | error fault =>
      rw [withArguments_of_no_config known read]
      exact .inr (stops_badConfig tree)
    | ok config =>
      obtain ⟨linter, built⟩ := exists_linter_of_readConfig read
      have setUp : SetUp arguments current tree format config linter := ⟨known, read, built⟩
      cases fixes : arguments.fix with
      | false =>
        exact (setUp.comesTo_or_stops_of_lint fixes).imp_left
          fun ⟨reports, comes⟩ => ⟨format, reports, tree, none, comes⟩
      | true =>
        exact (setUp.comesTo_or_stops_of_fix fixes).imp_left
          fun ⟨reports, changed, written, comes⟩ => ⟨format, reports, changed, written, comes⟩

/-- The report for reading tells of all violations and of their numbers. A run prints the report on what
it has come to, unless it is silent, and it ends with the code for errors just if that number of them is
not zero, so the text tells the code. A run that comes to nothing stops. -/
theorem report_tells_code :
    (∀ reports, Tells reports (Report.render .simple reports)) ∧
      (∀ arguments current tree format reports changed written,
        ComesTo arguments current tree format reports changed written →
          withArguments arguments current tree =
            { code := if 0 < total .error reports then .violations else .clean
              output := if arguments.silent && format.isForReading then ""
                else Report.render format reports
              tree := changed
              written := written }) ∧
      (∀ arguments current tree,
        (¬ ∃ format reports changed written,
          ComesTo arguments current tree format reports changed written) →
          Stops tree (withArguments arguments current tree)) ∧
      ∀ reports others, Report.render .simple reports = Report.render .simple others →
        (0 < total .error reports ↔ 0 < total .error others) := by
  refine ⟨Report.tells_simpleText, ?_, ?_, ?_⟩
  · intro arguments current tree format reports changed written comes
    rw [comes.withArguments_eq, finish]
    simp only [any_hasErrors_iff]
  · intro arguments current tree comesToNothing
    exact (comesTo_or_stops arguments current tree).resolve_left comesToNothing
  · intro reports others same
    have tells : Tells others (Report.render .simple reports) := same ▸ Report.tells_simpleText others
    exact (Report.tells_simpleText reports).errors_iff tells

/-- What there is to read on the class whose body touches its braces. -/
def tightText : String :=
  "/d.json:1: [ERROR] Opening brace for the class should be followed by 1 empty line(s); " ++
    "0 empty line(s) found. (Rule001BraceSpacing.OpenBraceFollowedByEmptyLines)\n" ++
    "/d.json:3: [ERROR] Closing brace for the class should be preceded by 1 empty line(s); " ++
    "0 found. (Rule001BraceSpacing.CloseBracePrecededByEmptyLines)\n\nFound 2 errors in 1 file\n"

/-- A dump with two errors: the run without fixing prints them and ends with their code. -/
theorem report_tells_code_oneDump :
    ComesTo fixInPlace.withoutFix ⟨"/"⟩ oneDump .simple [⟨"/d.json", plainLinter.lint tightBody⟩] oneDump
        none ∧
      withArguments fixInPlace.withoutFix ⟨"/"⟩ oneDump =
        { code := .violations, output := tightText, tree := oneDump } := by
  have setUp : SetUp fixInPlace.withoutFix ⟨"/"⟩ oneDump .simple {} plainLinter :=
    ⟨rfl, readConfig_oneDump, rfl⟩
  have comes : ComesTo fixInPlace.withoutFix ⟨"/"⟩ oneDump .simple
      [⟨"/d.json", plainLinter.lint tightBody⟩] oneDump none :=
    .linted setUp rfl (Linter.lintPath_of_dump load_oneDump)
  have errors : 0 < total .error [⟨"/d.json", plainLinter.lint tightBody⟩] := by decide +kernel
  have text : Report.render .simple [⟨"/d.json", plainLinter.lint tightBody⟩] = tightText := by
    decide +kernel
  have told := report_tells_code.2.1 _ _ _ _ _ _ _ comes
  rw [if_pos errors, text] at told
  exact ⟨comes, told⟩

end Run

end BlankLines
