import BlankLines.CommandLine
import BlankLines.Config.File
import BlankLines.Linter.Directory

/-!
A run of the program on a tree of files: what it prints, what it leaves behind, and its exit code.
-/
namespace BlankLines

inductive ExitCode where
  | clean
  | failure
  | usage
  | violations
  | badConfig
deriving Repr, DecidableEq

def ExitCode.toNat : ExitCode → Nat
  | .clean => 0
  | .failure => 1
  | .usage => 2
  | .violations => 65
  | .badConfig => 78

/-- The end of a run. `written` is the file that it wrote. -/
structure Outcome where
  code : ExitCode
  output : String := ""
  tree : FileTree
  written : Option (Path × String) := none

namespace Run

def defaultConfig : Path := ⟨"spacing-sniffs.config.toml"⟩

def configPath (arguments : Arguments) (current : Path) : Path :=
  match arguments.config with
  | some path => current.join ⟨path⟩
  | none => current.join defaultConfig

/-- The file to read the configuration from. One that is not named need not be there. -/
def configPath? (arguments : Arguments) (current : Path) (tree : FileTree) : Option Path :=
  let path := configPath arguments current
  if arguments.config.isSome || tree.existsAt path then some path else none

def readConfig (arguments : Arguments) (current : Path) (tree : FileTree) :
    Except ConfigError Config :=
  match configPath? arguments current tree with
  | some path => Config.load tree path
  | none => .ok {}

/-- The end of a run that came to reports. A silent run prints only what is not for reading. -/
def finish (arguments : Arguments) (format : Format) (reports : List FileReport) (tree : FileTree)
    (written : Option (Path × String)) : Outcome where
  code := if reports.any (·.hasErrors) then .violations else .clean
  output := if arguments.silent && format.isForReading then "" else Report.render format reports
  tree := tree
  written := written

def fixFile (arguments : Arguments) (format : Format) (linter : Linter) (current target : Path)
    (tree : FileTree) : Outcome :=
  if tree.isDirectoryAt target then { code := .failure, tree }
  else
    match TokenFile.load tree target with
    | .error _ => { code := .failure, tree }
    | .ok file =>
      let summary := linter.fix file
      let reports : List FileReport := [{ path := target.text, violations := summary.remaining }]
      match arguments.output with
      | none => finish arguments format reports tree none
      | some output =>
        let path := current.join ⟨output⟩
        match tree.writeText path summary.file.render with
        | .error _ => { code := .failure, tree }
        | .ok changed => finish arguments format reports changed (some (path, summary.file.render))

def lintTarget (arguments : Arguments) (format : Format) (linter : Linter) (config : Config)
    (current target : Path) (tree : FileTree) : Outcome :=
  match linter.lintPath config tree current target with
  | .error _ => { code := .failure, tree }
  | .ok reports => finish arguments format reports tree none

/-- A run with arguments that were understood. The format is looked up first, then the configuration. -/
def withArguments (arguments : Arguments) (current : Path) (tree : FileTree) : Outcome :=
  let target := current.join ⟨arguments.target⟩
  match Format.ofName? arguments.format with
  | none => { code := .failure, tree }
  | some format =>
    match readConfig arguments current tree with
    | .error _ => { code := .badConfig, tree }
    | .ok config =>
      match Linter.ofConfig config with
      | .error _ => { code := .badConfig, tree }
      | .ok linter =>
        if arguments.fix then fixFile arguments format linter current target tree
        else lintTarget arguments format linter config current target tree

/-- How a run ends that is started in a current directory. -/
def outcome (arguments : List String) (current : Path) (tree : FileTree) : Outcome :=
  match CommandLine.parse arguments with
  | .run arguments => withArguments arguments current tree
  | .help => { code := .clean, output := CommandLine.helpText, tree }
  | .version => { code := .clean, output := CommandLine.versionText, tree }
  | .rejected => { code := .usage, tree }

end Run

end BlankLines
