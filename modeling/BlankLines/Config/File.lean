import BlankLines.Config
import BlankLines.Toml.Reader

/-!
Configurations in files. The table of a rule may stand in a file of its own, named by an include.
-/
namespace BlankLines.Config

/-- The path within `include('…')`. -/
def includeTarget? : Toml.Value → Option Path
  | .string text =>
    let opening := "include('".toList
    let closing := "')".toList
    let chars := text.toList
    if opening.isPrefixOf chars && closing.isSuffixOf (chars.drop opening.length) then
      let inside := (chars.drop opening.length)
      some ⟨String.ofList (inside.take (inside.length - closing.length))⟩
    else none
  | _ => none

/-- The value of an entry, with an include replaced by the table of its file. -/
def resolveInclude (tree : FileTree) (base : Path) (key : String) (value : Toml.Value) :
    Except ConfigError Toml.Value :=
  match includeTarget? value with
  | none => .ok value
  | some target =>
    let path := base.join target
    match tree.readText path with
    | .error error => .error (.includeUnreadable key path error)
    | .ok text =>
      match Toml.parse text with
      | some table => .ok (.table table)
      | none => .error (.includeUnparsable key path)

/-- The table with all includes replaced. Those within an included table are left as they are. -/
def resolveIncludes (tree : FileTree) (base : Path) (table : Toml.Table) :
    Except ConfigError Toml.Table :=
  table.mapM fun (key, value) => do return (key, ← resolveInclude tree base key value)

def includedFiles (tree : FileTree) (path : Path) : List Path :=
  match path.parent?, (tree.readText path).toOption.bind Toml.parse with
  | some base, some table => table.filterMap fun (_, value) => (includeTarget? value).map base.join
  | _, _ => []

def load (tree : FileTree) (path : Path) : Except ConfigError Config :=
  match path.parent? with
  | none => .error (.noParent path)
  | some base =>
    match tree.readText path with
    | .error error => .error (.unreadable path error)
    | .ok text =>
      match Toml.parse text with
      | none => .error (.unparsable path)
      | some table => do ofValue base (.table (← resolveIncludes tree base table))

end BlankLines.Config
