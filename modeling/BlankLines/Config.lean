import BlankLines.FileTree
import BlankLines.Glob
import BlankLines.Rule

/-!
The configuration of a linter, read from a table: which rules are off, their levels and settings, and
which paths are ignored. The keys of a table are met in order, and the first fault ends the reading.
-/
namespace BlankLines

inductive ConfigError where
  | unrepresentable
  | notATable
  | ignoredNotList (found : Toml.Value)
  | ignoredNotText (found : Toml.Value)
  | badPattern (pattern : Path)
  | ruleNotTable (rule : RuleId) (found : Toml.Value)
  | levelNotText (rule : RuleId) (found : Toml.Value)
  | badLevel (rule : RuleId) (lower : String)
  | unknownSetting (rule : RuleId) (key : String)
  | badSetting (rule : RuleId) (error : SettingsError)
  | noParent (path : Path)
  | unreadable (path : Path) (error : FileError)
  | unparsable (path : Path)
  | includeUnreadable (key : String) (path : Path) (error : FileError)
  | includeUnparsable (key : String) (path : Path)
deriving Repr

namespace ConfigError

def message : ConfigError → String
  | unrepresentable => ""
  | notATable => "Invalid configuration. Must be serializable to a table."
  | ignoredNotList found => "ignore_patterns must be an array of globs, found " ++ found.display
  | ignoredNotText found => "ignore_patterns entries must be strings, found " ++ found.display
  | badPattern pattern => "Invalid ignore pattern " ++ pattern.quoted
  | ruleNotTable rule found =>
    "[" ++ rule.name ++ "] must be a table of settings or false, found " ++ found.display
  | levelNotText rule found =>
    "[" ++ rule.name ++ "] level must be a string, found " ++ found.display
  | badLevel rule lower => "[" ++ rule.name ++ "] " ++ Level.refusal lower
  | unknownSetting rule key =>
    "[" ++ rule.name ++ "] has no setting named " ++ key ++ "; expected one of: " ++
      ", ".intercalate rule.countKeys
  | badSetting rule error => "Invalid setting in [" ++ rule.name ++ "]: " ++ error.message
  | noParent path => "Config file " ++ path.quoted ++ " has no parent directory"
  | unreadable path error => "Failed to read config file " ++ path.quoted ++ ": " ++ error.message
  | unparsable path => "Failed to parse config file " ++ path.quoted
  | includeUnreadable key path error =>
    "Failed to read [" ++ key ++ "] include " ++ path.quoted ++ ": " ++ error.message
  | includeUnparsable key path => "Failed to parse [" ++ key ++ "] include " ++ path.quoted

end ConfigError

structure RuleEntry where
  id : RuleId
  active : Bool := true
  level : Level := id.defaultLevel
  settings : Option Settings := none
deriving Repr

/-- A configuration: an entry for every rule, in the order in which they are run, and the patterns of
ignored paths. -/
structure Config where
  rules : List RuleEntry := RuleId.all.map ({ id := · })
  ignored : List Glob.Pattern := []
deriving Repr

namespace Config

def ignoreKey : String := "ignore_patterns"
def levelKey : String := "level"

def changeRule (config : Config) (id : RuleId) (change : RuleEntry → RuleEntry) : Config :=
  { config with rules := config.rules.map fun entry => if entry.id = id then change entry else entry }

/-- The pattern that an entry of the ignore list stands for, below a directory. -/
def ignorePattern (root : Path) : Toml.Value → Except ConfigError Glob.Pattern
  | .string text =>
    let path := root.join ⟨text⟩
    match Glob.Pattern.parse? path.text with
    | some pattern => .ok pattern
    | none => .error (.badPattern path)
  | other => .error (.ignoredNotText other)

def readLevel (id : RuleId) (table : Toml.Table) : Except ConfigError (Option Level) :=
  match Keyed.get? table levelKey with
  | none => .ok none
  | some (.string text) =>
    match Level.parse text with
    | .ok level => .ok (some level)
    | .error lower => .error (.badLevel id lower)
  | some other => .error (.levelNotText id other)

def checkCounts (id : RuleId) (settings : Settings) : List String → Except ConfigError Unit
  | [] => .ok ()
  | key :: keys =>
    match settings.count key with
    | .ok _ => checkCounts id settings keys
    | .error error => .error (.badSetting id error)

/-- The level and the settings in the table of a rule: the level is looked at first, then unknown keys,
then the counts. -/
def readRuleTable (id : RuleId) (table : Toml.Table) :
    Except ConfigError (Option Level × Settings) := do
  let level ← readLevel id table
  let settings := Keyed.without table levelKey
  match settings.find? fun (key, _) => !id.countKeys.contains key with
  | some (key, _) => throw (.unknownSetting id key)
  | none =>
    checkCounts id settings id.countKeys
    return (level, settings)

/-- Takes over one entry of a table. Keys that name no rule change nothing. -/
def addEntry (root : Path) (config : Config) (key : String) (value : Toml.Value) :
    Except ConfigError Config :=
  if key = ignoreKey then
    match value with
    | .array items => do
      let patterns ← items.mapM (ignorePattern root)
      return { config with ignored := config.ignored ++ patterns }
    | other => .error (.ignoredNotList other)
  else
    match RuleId.ofName? key with
    | none => .ok config
    | some id =>
      match value with
      | .boolean true => .ok config
      | .boolean false => .ok (config.changeRule id ({ · with active := false }))
      | .table table => do
        let (level, settings) ← readRuleTable id table
        return config.changeRule id fun entry =>
          { entry with level := level.getD entry.level, settings := some settings }
      | other => .error (.ruleNotTable id other)

/-- The configuration of a table. Patterns are joined to `root`. -/
def ofTable (root : Path) (table : Toml.Table) : Except ConfigError Config :=
  table.foldlM (fun config (key, value) => addEntry root config key value) {}

/-- The configuration of a value, which must be a table. Date-times stand in it as tables. -/
def ofValue (root : Path) (value : Toml.Value) : Except ConfigError Config :=
  match value.plain with
  | .table table => ofTable root table
  | _ => .error .notATable

def ofJson (root : Path) (value : Json.Value) : Except ConfigError Config :=
  match Toml.Value.ofJson? value with
  | some value => ofValue root value
  | none => .error .unrepresentable

/-- Whether a path matches a pattern of the ignore list. A relative one is taken from `current`. -/
def isIgnored (config : Config) (current path : Path) : Bool :=
  config.ignored.any (·.accepts (current.join path).text.toList)

end Config

end BlankLines
