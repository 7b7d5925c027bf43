import BlankLines.Proofs.Config.Tables
import BlankLines.Proofs.FileTree.Writing
import BlankLines.Proofs.Linter.Configured
import BlankLines.Proofs.Linter.Passes
import BlankLines.Proofs.TokenFile.Dump
import BlankLines.Run

/-!
Runs that fix a file: they write the fixed text to the one place that is asked for, or leave everything as
it was.
-/
namespace BlankLines

/-- The dump of a valid file loads as that file with its white space cut. -/
theorem TokenFile.load_dump {tree : FileTree} {path : Path} {file : TokenFile}
    (found : tree.locate path = .ok (.file file.dump.toUTF8))
    (words : ∀ token ∈ file.tokens, token.InWords) (valid : file.validate = .ok ()) :
    load tree path = .ok file.splitLineBreaks := by
  rw [load, FileTree.readText_of_locate found]
  dsimp only
  rw [ofDump, parseDump_dump words]
  dsimp only
  rw [valid]

/-- What is left after fixing is what is reported on the fixed file. -/
theorem Linter.remaining_fix (linter : Linter) (file : TokenFile) :
    (linter.fix file).remaining = linter.lint (linter.fix file).file := by
  rw [(linter.isLeast_passes file).2]
  rfl

theorem Config.checked_load {tree : FileTree} {path : Path} {config : Config}
    (loads : load tree path = .ok config) : ∀ entry ∈ config.rules, entry.Checked := by
  obtain ⟨_, _, _, _, loads⟩ := exists_table_of_load loads
  exact checked_ofValue loads

namespace Run

variable {arguments : Arguments} {current : Path} {tree : FileTree} {config : Config} {format : Format}
  {output : String} {outcome : Outcome} {linter : Linter} {file : TokenFile}

/-- A configuration that was read sets up. -/
theorem exists_linter_of_readConfig (read : readConfig arguments current tree = .ok config) :
    ∃ linter, Linter.ofConfig config = .ok linter := by
  rw [readConfig] at read
  split at read
  · exact ⟨_, Linter.ofConfig_of_checked (Config.checked_load read)⟩
  · cases read
    exact ⟨_, Linter.ofConfig_of_checked Config.checked_default⟩

/-- Something is wrong with the format, the configuration, the target or the dump in it. -/
def Refused (arguments : Arguments) (current : Path) (tree : FileTree) : Prop :=
  Format.ofName? arguments.format = none ∨
    (∃ fault, readConfig arguments current tree = .error fault) ∨
    tree.isDirectoryAt (current.join ⟨arguments.target⟩) = true ∨
    ∃ fault, TokenFile.load tree (current.join ⟨arguments.target⟩) = .error fault

theorem fixFile_of_no_dump {target : Path} (refused : tree.isDirectoryAt target = true ∨
    ∃ fault, TokenFile.load tree target = .error fault) :
    fixFile arguments format linter current target tree = { code := .failure, tree } := by
  rw [fixFile]
  rcases refused with directory | ⟨fault, fails⟩
  · rw [if_pos directory]
  · rw [fails]
    split <;> rfl

/-- A dump that loads is fixed, written, and reported on as it was written. -/
theorem fixFile_of_dump {target : Path} {changed : FileTree} (dump : tree.isDirectoryAt target = false)
    (loads : TokenFile.load tree target = .ok file) (asks : arguments.output = some output)
    (written : tree.writeText (current.join ⟨output⟩) (linter.fix file).file.render = .ok changed) :
    fixFile arguments format linter current target tree =
      finish arguments format [{ path := target.text, violations := linter.lint (linter.fix file).file }]
        changed (some (current.join ⟨output⟩, (linter.fix file).file.render)) := by
  rw [fixFile, dump, if_neg Bool.false_ne_true, loads, asks]
  dsimp only
  rw [written, linter.remaining_fix]

theorem withArguments_of_no_format (unknown : Format.ofName? arguments.format = none) :
    withArguments arguments current tree = { code := .failure, tree } := by
  unfold withArguments
  dsimp only
  rw [unknown]

theorem withArguments_of_no_config {fault : ConfigError}
    (known : Format.ofName? arguments.format = some format)
    (fails : readConfig arguments current tree = .error fault) :
    withArguments arguments current tree = { code := .badConfig, tree } := by
  unfold withArguments
  dsimp only
  rw [known, fails]

/-- What a run needs before it looks at its target. -/
structure SetUp (arguments : Arguments) (current : Path) (tree : FileTree) (format : Format)
    (config : Config) (linter : Linter) : Prop where
  known : Format.ofName? arguments.format = some format
  read : readConfig arguments current tree = .ok config
  built : Linter.ofConfig config = .ok linter

theorem SetUp.withArguments_eq (setUp : SetUp arguments current tree format config linter) :
    withArguments arguments current tree =
      if arguments.fix then
        fixFile arguments format linter current (current.join ⟨arguments.target⟩) tree
      else lintTarget arguments format linter config current (current.join ⟨arguments.target⟩) tree := by
  unfold withArguments
  dsimp only
  rw [setUp.known, setUp.read]
  dsimp only
  rw [setUp.built]

theorem unchanged_of_refused (fixes : arguments.fix = true) (refused : Refused arguments current tree) :
    (withArguments arguments current tree).tree = tree ∧
      (withArguments arguments current tree).written = none := by
  cases known : Format.ofName? arguments.format with
  | none =>
    rw [withArguments_of_no_format known]
    exact ⟨rfl, rfl⟩
  | some format =>
    cases read : readConfig arguments current tree with
    | error fault =>
      rw [withArguments_of_no_config known read]
      exact ⟨rfl, rfl⟩
    | ok config =>
      obtain ⟨linter, built⟩ := exists_linter_of_readConfig read
      rw [SetUp.withArguments_eq ⟨known, read, built⟩, if_pos fixes]
      rcases refused with unknown | ⟨fault, fails⟩ | refused
      · cases unknown.symm.trans known
      · cases fails.symm.trans read
      · rw [fixFile_of_no_dump refused]
        exact ⟨rfl, rfl⟩

theorem exists_setUp_of_not_refused (accepted : ¬ Refused arguments current tree) :
    ∃ format config linter file, SetUp arguments current tree format config linter ∧
      tree.isDirectoryAt (current.join ⟨arguments.target⟩) = false ∧
      TokenFile.load tree (current.join ⟨arguments.target⟩) = .ok file := by
  simp only [Refused, not_or, not_exists] at accepted
  obtain ⟨known, reads, dump, loads⟩ := accepted
  obtain ⟨format, named⟩ := Option.ne_none_iff_exists'.mp known
  cases read : readConfig arguments current tree with
  | error fault => exact absurd read (reads fault)
  | ok config =>
    cases load : TokenFile.load tree (current.join ⟨arguments.target⟩) with
    | error fault => exact absurd load (loads fault)
    | ok file =>
      obtain ⟨linter, built⟩ := exists_linter_of_readConfig read
      exact ⟨format, config, linter, file, ⟨named, read, built⟩, Bool.eq_false_of_not_eq_true dump, rfl⟩

/-- A run that fixes either is refused and leaves everything as it was, or it writes the fixed text to
the place that the output leads to and changes nothing else. Its code tells about the file that it
wrote. -/
theorem withArguments_fix (fixes : arguments.fix = true) (asks : arguments.output = some output)
    (writable : ∀ text, ∃ changed, tree.writeText (current.join ⟨output⟩) text = .ok changed)
    (ran : withArguments arguments current tree = outcome) :
    (Refused arguments current tree → outcome.tree = tree ∧ outcome.written = none) ∧
      (¬ Refused arguments current tree → ∃ config linter file place,
        readConfig arguments current tree = .ok config ∧ Linter.ofConfig config = .ok linter ∧
          TokenFile.load tree (current.join ⟨arguments.target⟩) = .ok file ∧
          outcome.written = some (current.join ⟨output⟩, (linter.fix file).file.render) ∧
          outcome.tree.resolve (current.join ⟨output⟩) = .ok place ∧
          (∀ names, outcome.tree.kindAt names =
            if names = place then some (.file (linter.fix file).file.render.toUTF8)
            else tree.kindAt names) ∧
          outcome.code =
            if (linter.lint (linter.fix file).file).any (·.isError) then .violations else .clean) := by
  subst ran
  refine ⟨unchanged_of_refused fixes, fun accepted => ?_⟩
  obtain ⟨format, config, linter, file, setUp, dump, loads⟩ := exists_setUp_of_not_refused accepted
  obtain ⟨changed, written⟩ := writable (linter.fix file).file.render
  obtain ⟨place, resolved, kinds⟩ := FileTree.exists_place_of_writeText written
  refine ⟨config, linter, file, place, setUp.read, setUp.built, loads, ?_⟩
  rw [setUp.withArguments_eq, if_pos fixes, fixFile_of_dump dump loads asks written]
  refine ⟨rfl, resolved, kinds, ?_⟩
  rw [finish, List.any_cons, List.any_nil, Bool.or_false]
  rfl

open FileTree

/-- A class whose body touches its braces. -/
def tightBody : TokenFile where
  tokens := [
    { kind := .classDecl, line := 1, content := "class", scopeOpener := some 1,
      scopeCloser := some 5 },
    { kind := .openBrace, line := 1, content := "\x7b" },
    { kind := .whitespace, line := 1, content := "\n" },
    { kind := .other, line := 2, content := "x" },
    { kind := .whitespace, line := 2, content := "\n" },
    { kind := .closeBrace, line := 3, content := "\x7d" }]

/-- The linter of a configuration that says nothing. -/
def plainLinter : Linter :=
  ⟨[(.braceSpacing 1 1, .error), (.methodSpacing 2, .error)]⟩

def oneDump : FileTree :=
  .directory [("d.json", .file tightBody.dump.toUTF8)]

def fixInPlace : Arguments :=
  { target := "d.json", fix := true, output := some "d.json" }

theorem locate_oneDump : oneDump.locate ⟨"/d.json"⟩ = .ok (.file tightBody.dump.toUTF8) :=
  locate_eq_ok_iff.mpr ⟨["d.json"], checkPath_eq_ok_iff.mpr (by decide), rfl, rfl⟩

theorem load_oneDump : TokenFile.load oneDump ⟨"/d.json"⟩ = .ok tightBody := by
  have words : ∀ token ∈ tightBody.tokens, token.InWords := by decide +kernel
  have valid : tightBody.validate = .ok () := by decide +kernel
  have whole : tightBody.splitLineBreaks = tightBody := by decide +kernel
  rw [TokenFile.load_dump locate_oneDump words valid, whole]

theorem readConfig_oneDump : readConfig fixInPlace ⟨"/"⟩ oneDump = .ok {} := by
  have checked : checkPath (configPath fixInPlace ⟨"/"⟩) = .ok () := checkPath_eq_ok_iff.mpr (by decide)
  have missing : oneDump.existsAt (configPath fixInPlace ⟨"/"⟩) = false := by
    rw [existsAt, locate, resolve, checked]
    rfl
  rw [readConfig, configPath?, missing]
  rfl

/-- A dump that is fixed in its own place: the text of the file stands there afterwards. -/
theorem withArguments_fix_inPlace :
    ∃ outcome place, withArguments fixInPlace ⟨"/"⟩ oneDump = outcome ∧
      outcome.written = some (⟨"/d.json"⟩, "class\x7b\n\nx\n\n\x7d") ∧
      outcome.tree.resolve ⟨"/d.json"⟩ = .ok place ∧
      outcome.tree.kindAt place = some (.file "class\x7b\n\nx\n\n\x7d".toUTF8) ∧
      outcome.code = .clean := by
  have writable (text : String) : ∃ changed, oneDump.writeText ⟨"/d.json"⟩ text = .ok changed := by
    have checked : checkPath ⟨"/d.json"⟩ = .ok () := checkPath_eq_ok_iff.mpr (by decide)
    rw [writeText, checked]
    exact ⟨_, rfl⟩
  have accepted : ¬ Refused fixInPlace ⟨"/"⟩ oneDump := by
    have target : (⟨"/"⟩ : Path).join ⟨fixInPlace.target⟩ = ⟨"/d.json"⟩ := rfl
    rintro (unknown | ⟨fault, fails⟩ | directory | ⟨fault, fails⟩)
    · exact absurd unknown (by decide)
    · cases readConfig_oneDump.symm.trans fails
    · rw [target, isDirectoryAt, locate_oneDump] at directory
      cases directory
    · cases load_oneDump.symm.trans fails
  obtain ⟨config, linter, file, place, read, built, loads, written, resolved, kinds, code⟩ :=
    (@withArguments_fix fixInPlace ⟨"/"⟩ oneDump "d.json" _ rfl rfl writable rfl).2 accepted
  obtain rfl := Except.ok.inj (readConfig_oneDump.symm.trans read)
  obtain rfl := Except.ok.inj (load_oneDump.symm.trans loads)
  obtain rfl : plainLinter = linter := Except.ok.inj built
  have fixed : (plainLinter.fix tightBody).file = plainLinter.pass tightBody := by
    have passes : (plainLinter.fix tightBody).passes = 1 := by decide +kernel
    rw [plainLinter.fix_file, passes, Function.iterate_one]
  have text : (plainLinter.pass tightBody).render = "class\x7b\n\nx\n\n\x7d" := by decide +kernel
  have clean : (plainLinter.lint (plainLinter.pass tightBody)).any (·.isError) = false := by
    decide +kernel
  rw [fixed, text] at written
  refine ⟨_, place, rfl, written, resolved, ?_, ?_⟩
  · rw [kinds, if_pos rfl, fixed, text]
  · rw [code, fixed, clean, if_neg Bool.false_ne_true]

end Run

end BlankLines
