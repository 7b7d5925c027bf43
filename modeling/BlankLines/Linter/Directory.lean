import BlankLines.FileTree
import BlankLines.Linter
import BlankLines.Report
import BlankLines.TokenFile.Dump

/-!
Linting dumps in files and directories. A walk picks the dumps under a path in the order of their
names; they are then read and linted in turn, and the first that cannot be read ends it.
-/
namespace BlankLines

inductive LoadError where
  | unreadable (path : Path) (error : FileError)
  | refused (path : Path) (error : DumpError)
deriving Repr

namespace LoadError

/-- What is wrong. The reason why text is no dump is left to its fault. -/
def message : LoadError → String
  | unreadable path error =>
    "File system error encountered when reading token dump " ++ path.quoted ++ ": " ++ error.message
  | refused path (.unreadable _) => "Unable to read token stream from " ++ path.text
  | refused _ (.invalid fault) => "Invalid token stream: " ++ fault.message

end LoadError

def dumpExtension : String := "json"

def TokenFile.load (tree : FileTree) (path : Path) : Except LoadError TokenFile :=
  match tree.readText path with
  | .error error => .error (.unreadable path error)
  | .ok text =>
    match TokenFile.ofDump text with
    | .ok file => .ok file
    | .error error => .error (.refused path error)

namespace Config

/-- Whether a node is a directory that can be entered. Under a path that is too long, none can. -/
def canEnter (path : Path) : FileTree → Bool
  | .directory _ => !FileTree.isTooLong path
  | .file _ => false

/-- Whether a walk looks at an entry of a directory: another directory, or a dump by its name. -/
def isCandidate (path : Path) (name : String) (node : FileTree) : Bool :=
  canEnter path node || Path.extension? name = some dumpExtension

mutual

/-- The paths of the files to lint at and under a node, without those that are ignored. What cannot be
entered is taken for a file. -/
def walk (config : Config) (current path : Path) : FileTree → List Path
  | .file _ => if config.isIgnored current path then [] else [path]
  | .directory entries =>
    if config.isIgnored current path then []
    else if FileTree.isTooLong path then [path]
    else (Keyed.sorted (walkEntries config current path entries)).flatMap (·.2)

def walkEntries (config : Config) (current path : Path) :
    List (String × FileTree) → Keyed (List Path)
  | [] => []
  | (name, node) :: entries =>
    let entry := path.join ⟨name⟩
    let below := if isCandidate entry name node then walk config current entry node else []
    (name, below) :: walkEntries config current path entries

end

end Config

namespace Linter

def lintFile (linter : Linter) (tree : FileTree) (path : Path) : Except LoadError FileReport := do
  let file ← TokenFile.load tree path
  return { path := path.text, violations := linter.lint file }

/-- Lints a dump, or every dump under a directory. A path to nothing is read like a file. -/
def lintPath (linter : Linter) (config : Config) (tree : FileTree) (current path : Path) :
    Except LoadError (List FileReport) :=
  match tree.locate path with
  | .ok node => (config.walk current path node).mapM (linter.lintFile tree)
  | .error _ =>
    if config.isIgnored current path then .ok []
    else do return [← linter.lintFile tree path]

end Linter

end BlankLines
