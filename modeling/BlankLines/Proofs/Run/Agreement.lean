import BlankLines.Proofs.Run.Fix
import BlankLines.Proofs.Toml.Value

/-!
Linting and fixing a dump in which nothing is fixable. They come to the same unless the dump is ignored:
only the linter asks about that.
-/
namespace BlankLines

theorem TokenFile.exists_file_of_load {tree : FileTree} {path : Path} {file : TokenFile}
    (loads : load tree path = .ok file) : ∃ bytes, tree.locate path = .ok (.file bytes) := by
  rw [load] at loads
  split at loads
  · cases loads
  · next reads => exact FileTree.exists_file_of_readText reads

namespace Report

/-- The report on one file is told from that on none by the number in the summary. -/
theorem simpleText_singleton_ne (report : FileReport) : simpleText [report] ≠ simpleText [] := by
  intro same
  have ending (reports : List FileReport) : ∃ before, (simpleText reports).toList =
      before ++ (counted reports.length "file" ++ "\n").toList := by
    rw [simpleText, summary]
    simp only [String.toList_append, ← List.append_assoc]
    exact ⟨_, rfl⟩
  obtain ⟨before, text⟩ := ending [report]
  obtain ⟨before', text'⟩ := ending []
  rw [same, text'] at text
  have letters := congrArg (fun chars => chars.reverse.take 2) text
  simp [counted] at letters

theorem jsonText_singleton_ne (report : FileReport) : jsonText [report] ≠ jsonText [] := by
  intro same
  have letters := congrArg (fun text => text.toList.take 2) same
  simp [jsonText, Json.Value.toPrettyText, Json.prettyAt, Json.prettyItems, Json.indent] at letters

theorem render_singleton_ne (format : Format) (report : FileReport) :
    render format [report] ≠ render format [] :=
  match format with
  | .simple => simpleText_singleton_ne report
  | .json => jsonText_singleton_ne report

end Report

namespace Linter

variable {linter : Linter} {file : TokenFile} {config : Config} {tree : FileTree} {current target : Path}

/-- A dump that loads is reported on, unless it is ignored. -/
theorem lintPath_of_dump (loads : TokenFile.load tree target = .ok file) :
    linter.lintPath config tree current target =
      .ok (if config.isIgnored current target then []
        else [{ path := target.text, violations := linter.lint file }]) := by
  obtain ⟨bytes, found⟩ := TokenFile.exists_file_of_load loads
  have report : linter.lintFile tree target = .ok ⟨target.text, linter.lint file⟩ := by
    rw [lintFile, loads]
    rfl
  rw [lintPath, found]
  dsimp only
  rw [Config.walk]
  split
  · rfl
  · rw [List.mapM_cons, report]
    rfl

end Linter

/-- The same arguments without the flag that asks to fix. -/
def Arguments.withoutFix (arguments : Arguments) : Arguments :=
  { arguments with fix := false }

namespace Run

variable {arguments : Arguments} {current : Path} {tree : FileTree} {config : Config} {format : Format}
  {output : String} {linter : Linter} {file : TokenFile}

/-- Two runs print the same and end with the same code. -/
def Alike (outcome other : Outcome) : Prop :=
  outcome.output = other.output ∧ outcome.code = other.code

/-- Nothing tells a run that reports on a file from one that reports on none: it prints nothing, and what
it found is no error. -/
def Unseen (arguments : Arguments) (format : Format) (found : List Violation) : Prop :=
  (arguments.silent = true ∧ format.isForReading = true) ∧
    ∀ violation ∈ found, violation.isError = false

/-- Without the flag, a dump that loads is reported on unless it is ignored. -/
theorem withoutFix_of_dump (known : Format.ofName? arguments.format = some format)
    (read : readConfig arguments current tree = .ok config)
    (built : Linter.ofConfig config = .ok linter)
    (loads : TokenFile.load tree (current.join ⟨arguments.target⟩) = .ok file) :
    withArguments arguments.withoutFix current tree =
      finish arguments format
        (if config.isIgnored current (current.join ⟨arguments.target⟩) then []
          else [{ path := (current.join ⟨arguments.target⟩).text, violations := linter.lint file }])
        tree none := by
  have run : withArguments arguments.withoutFix current tree = lintTarget arguments.withoutFix format
      linter config current (current.join ⟨arguments.target⟩) tree :=
    SetUp.withArguments_eq ⟨known, read, built⟩
  rw [run, lintTarget, Linter.lintPath_of_dump loads]
  rfl

theorem alike_finish_nil_iff (report : FileReport) {changed : FileTree}
    {written : Option (Path × String)} :
    Alike (finish arguments format [] tree none) (finish arguments format [report] changed written) ↔
      Unseen arguments format report.violations := by
  have codes : (finish arguments format [] tree none).code =
      (finish arguments format [report] changed written).code ↔ report.hasErrors = false := by
    cases errors : report.hasErrors <;> simp [finish, errors]
  have outputs : (finish arguments format [] tree none).output =
      (finish arguments format [report] changed written).output ↔
        arguments.silent = true ∧ format.isForReading = true := by
    rw [← Bool.and_eq_true]
    cases quiet : arguments.silent && format.isForReading with
    | true => simp [finish, quiet]
    | false => simpa [finish, quiet] using (Report.render_singleton_ne format report).symm
  rw [Alike, outputs, codes, Unseen, FileReport.hasErrors, List.any_eq_false]
  simp only [Bool.not_eq_true]

/-- Where nothing is fixable, a run that fixes prints what one without fixing prints and ends with its
code, unless the dump is ignored: then the run without fixing reports on no file, and the other on this
one. -/
theorem withArguments_alike_iff (fixes : arguments.fix = true) (asks : arguments.output = some output)
    (read : readConfig arguments current tree = .ok config)
    (built : Linter.ofConfig config = .ok linter)
    (loads : TokenFile.load tree (current.join ⟨arguments.target⟩) = .ok file)
    (unfixable : ∀ violation ∈ linter.lint file, violation.fix = none)
    (writable : ∃ changed, tree.writeText (current.join ⟨output⟩) file.render = .ok changed) :
    Alike (withArguments arguments.withoutFix current tree)
        (withArguments arguments current tree) ↔
      (config.isIgnored current (current.join ⟨arguments.target⟩) = true →
        ∀ format, Format.ofName? arguments.format = some format →
          Unseen arguments format (linter.lint file)) := by
  cases known : Format.ofName? arguments.format with
  | none =>
    have linted : withArguments arguments.withoutFix current tree = { code := .failure, tree } :=
      withArguments_of_no_format known
    rw [linted, withArguments_of_no_format known]
    exact iff_of_true ⟨rfl, rfl⟩ fun _ format named => absurd named (Option.some_ne_none format).symm
  | some format =>
    obtain ⟨bytes, found⟩ := TokenFile.exists_file_of_load loads
    have dump : tree.isDirectoryAt (current.join ⟨arguments.target⟩) = false := by
      rw [FileTree.isDirectoryAt, found]
    have unchanged := Linter.fix_file_of_unfixable unfixable
    obtain ⟨changed, written⟩ := writable
    rw [← unchanged] at written
    have fixed : withArguments arguments current tree =
        finish arguments format
          [{ path := (current.join ⟨arguments.target⟩).text, violations := linter.lint file }]
          changed (some (current.join ⟨output⟩, file.render)) := by
      rw [SetUp.withArguments_eq ⟨known, read, built⟩, if_pos fixes,
        fixFile_of_dump dump loads asks written, unchanged]
    have linted := withoutFix_of_dump known read built loads
    rw [fixed, linted]
    cases ignored : config.isIgnored current (current.join ⟨arguments.target⟩) with
    | false => exact iff_of_true ⟨rfl, rfl⟩ fun seen => absurd seen Bool.false_ne_true
    | true =>
      rw [if_pos rfl, alike_finish_nil_iff]
      exact ⟨fun unseen _ _ named => Option.some.inj named ▸ unseen,
        fun unseen => unseen rfl format rfl⟩

open FileTree

/-- A class with a comment in place of a body. There is no line ending that could be deleted. -/
def notedBody : TokenFile where
  tokens := [
    { kind := .classDecl, line := 1, content := "class", scopeOpener := some 1,
      scopeCloser := some 3 },
    { kind := .openBrace, line := 1, content := "\x7b" },
    { kind := .comment, line := 1, content := "/*\n\n\n*/" },
    { kind := .closeBrace, line := 4, content := "\x7d" }]

def ignoringText : String :=
  "ignore_patterns = [\"d.json\"]\n"

def ignoredDump : FileTree :=
  .directory [("d.json", .file notedBody.dump.toUTF8),
    ("spacing-sniffs.config.toml", .file ignoringText.toUTF8)]

def fixAside : Arguments :=
  { target := "d.json", fix := true, output := some "out.php" }

/-- The configuration that ignores the one dump. -/
def ignoringConfig : Config where
  ignored := ["/d.json".toList.map .char]

theorem load_ignoredDump : TokenFile.load ignoredDump ⟨"/d.json"⟩ = .ok notedBody := by
  have located : ignoredDump.locate ⟨"/d.json"⟩ = .ok (.file notedBody.dump.toUTF8) :=
    locate_eq_ok_iff.mpr ⟨["d.json"], checkPath_eq_ok_iff.mpr (by decide), rfl, rfl⟩
  have words : ∀ token ∈ notedBody.tokens, token.InWords := by decide +kernel
  have valid : notedBody.validate = .ok () := by decide +kernel
  have whole : notedBody.splitLineBreaks = notedBody := by decide +kernel
  rw [TokenFile.load_dump located words valid, whole]

theorem readConfig_ignoredDump : readConfig fixAside ⟨"/"⟩ ignoredDump = .ok ignoringConfig := by
  have located : ignoredDump.locate (configPath fixAside ⟨"/"⟩) = .ok (.file ignoringText.toUTF8) :=
    locate_eq_ok_iff.mpr ⟨["spacing-sniffs.config.toml"], checkPath_eq_ok_iff.mpr (by decide), rfl, rfl⟩
  have present : ignoredDump.existsAt (configPath fixAside ⟨"/"⟩) = true := by
    rw [existsAt, located]
  have parent : (configPath fixAside ⟨"/"⟩).parent? = some ⟨"/"⟩ := by decide +kernel
  have parsed : Toml.parse ignoringText = some [("ignore_patterns", .array [.string "d.json"])] := by
    decide +kernel
  have loads : Config.load ignoredDump (configPath fixAside ⟨"/"⟩) = .ok ignoringConfig := by
    rw [Config.load, parent]
    dsimp only
    rw [readText_of_locate located]
    dsimp only
    rw [parsed]
    rfl
  rw [readConfig, configPath?, present]
  exact loads

/-- An ignored dump with an error: the run without fixing finds no file, the run with it the error. -/
theorem withArguments_alike_ignoredDump :
    readConfig fixAside ⟨"/"⟩ ignoredDump = .ok ignoringConfig ∧
      TokenFile.load ignoredDump ⟨"/d.json"⟩ = .ok notedBody ∧
      (∀ violation ∈ plainLinter.lint notedBody, violation.fix = none) ∧
      ¬ Alike (withArguments fixAside.withoutFix ⟨"/"⟩ ignoredDump)
        (withArguments fixAside ⟨"/"⟩ ignoredDump) := by
  have unfixable : ∀ violation ∈ plainLinter.lint notedBody, violation.fix = none := by decide +kernel
  have writable : ∃ changed, ignoredDump.writeText ((⟨"/"⟩ : Path).join ⟨"out.php"⟩) notedBody.render =
      .ok changed := by
    have checked : checkPath ⟨"/out.php"⟩ = .ok () := checkPath_eq_ok_iff.mpr (by decide)
    rw [show (⟨"/"⟩ : Path).join ⟨"out.php"⟩ = ⟨"/out.php"⟩ from rfl, writeText, checked]
    exact ⟨_, rfl⟩
  have alike := @withArguments_alike_iff fixAside ⟨"/"⟩ ignoredDump ignoringConfig "out.php" plainLinter
    notedBody rfl rfl readConfig_ignoredDump rfl load_ignoredDump unfixable writable
  refine ⟨readConfig_ignoredDump, load_ignoredDump, unfixable, fun same => ?_⟩
  have ignored : ignoringConfig.isIgnored ⟨"/"⟩ ((⟨"/"⟩ : Path).join ⟨"d.json"⟩) = true := by
    decide +kernel
  have unseen := alike.mp same ignored .simple rfl
  exact absurd unseen.1.1 Bool.false_ne_true

end Run

end BlankLines
