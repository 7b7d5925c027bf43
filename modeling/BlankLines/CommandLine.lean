/-!
The command line: flags, options with a value, and one target. Arguments are read from the left; the
first that cannot stand where it stands ends the reading, and so does a request for help or version.
-/
namespace BlankLines

structure Arguments where
  target : String
  config : Option String := none
  format : String := "simple"
  fix : Bool := false
  output : Option String := none
  silent : Bool := false
  debug : Bool := false
deriving Repr, DecidableEq

/-- How arguments are understood: a run, a text to show instead, or not at all. -/
inductive Request where
  | run (arguments : Arguments)
  | help
  | version
  | rejected
deriving Repr, DecidableEq

namespace CommandLine

inductive Flag where
  | fix
  | silent
  | debug
deriving Repr, DecidableEq

inductive Setting where
  | config
  | format
  | output
deriving Repr, DecidableEq

/-- What an option name stands for. -/
inductive Switch where
  | flag (flag : Flag)
  | setting (setting : Setting)
  | help
  | version
deriving Repr, DecidableEq

def ofLongName? (name : String) : Option Switch :=
  match name with
  | "config" => some (.setting .config)
  | "format" => some (.setting .format)
  | "fix" => some (.flag .fix)
  | "output" => some (.setting .output)
  | "silent" => some (.flag .silent)
  | "debug" => some (.flag .debug)
  | "help" => some .help
  | "version" => some .version
  | _ => none

def ofLetter? (letter : Char) : Option Switch :=
  match letter with
  | 'c' => some (.setting .config)
  | 'o' => some (.setting .output)
  | 's' => some (.flag .silent)
  | 'd' => some (.flag .debug)
  | 'h' => some .help
  | 'V' => some .version
  | _ => none

/-- What has been read so far. -/
structure Seen where
  target : Option String := none
  flags : List Flag := []
  settings : List (Setting × String) := []
deriving Repr, DecidableEq

inductive Stop where
  | help
  | version
  | rejected
deriving Repr, DecidableEq

namespace Seen

def addFlag (seen : Seen) (flag : Flag) : Except Stop Seen :=
  if seen.flags.contains flag then .error .rejected
  else .ok { seen with flags := flag :: seen.flags }

/-- Sets an option. An option stands once, and a path is not empty. -/
def addSetting (seen : Seen) (setting : Setting) (value : String) : Except Stop Seen :=
  if seen.settings.any (·.1 = setting) then .error .rejected
  else if value.isEmpty && setting ≠ .format then .error .rejected
  else .ok { seen with settings := (setting, value) :: seen.settings }

/-- Sets the target. There is one, and it is not empty. -/
def addTarget (seen : Seen) (target : String) : Except Stop Seen :=
  if seen.target.isSome || target.isEmpty then .error .rejected
  else .ok { seen with target := some target }

def setting? (seen : Seen) (setting : Setting) : Option String :=
  (seen.settings.find? (·.1 = setting)).map (·.2)

end Seen

/-- What an argument leaves open: nothing, or the value of an option. -/
abbrev Pending := Option Setting

/-- Reads a cluster of letters. An option takes the letters after it as its value, less a `=`. -/
def readLetters (seen : Seen) : List Char → Except Stop (Seen × Pending)
  | [] => .ok (seen, none)
  | letter :: rest =>
    match ofLetter? letter with
    | none => .error .rejected
    | some .help => .error .help
    | some .version => .error .version
    | some (.flag flag) => do readLetters (← seen.addFlag flag) rest
    | some (.setting setting) =>
      match rest with
      | [] => .ok (seen, some setting)
      | '=' :: value => do return (← seen.addSetting setting (String.ofList value), none)
      | value => do return (← seen.addSetting setting (String.ofList value), none)

/-- Reads a long name, with a value behind a `=` if there is one. Only options take one. -/
def readLongName (seen : Seen) (text : List Char) : Except Stop (Seen × Pending) :=
  let name := String.ofList (text.takeWhile (· ≠ '='))
  let value : Option String :=
    match text.dropWhile (· ≠ '=') with
    | _ :: value => some (String.ofList value)
    | [] => none
  match ofLongName? name, value with
  | some .help, none => .error .help
  | some .version, none => .error .version
  | some (.flag flag), none => do return (← seen.addFlag flag, none)
  | some (.setting setting), none => .ok (seen, some setting)
  | some (.setting setting), some value => do return (← seen.addSetting setting value, none)
  | _, _ => .error .rejected

/-- Reads the arguments in turn. Behind `--` they are targets. The value of an option may not look like
an option. -/
def readAll (seen : Seen) : Pending → List String → Except Stop Seen
  | none, [] => .ok seen
  | some _, [] => .error .rejected
  | pending, argument :: rest =>
    match argument.toList with
    | ['-', '-'] => if pending.isSome then .error .rejected else rest.foldlM Seen.addTarget seen
    | '-' :: '-' :: text =>
      if pending.isSome then .error .rejected
      else do
        let (seen, pending) ← readLongName seen text
        readAll seen pending rest
    | '-' :: letter :: letters =>
      if pending.isSome then .error .rejected
      else do
        let (seen, pending) ← readLetters seen (letter :: letters)
        readAll seen pending rest
    | _ =>
      match pending with
      | some setting => do readAll (← seen.addSetting setting argument) none rest
      | none => do readAll (← seen.addTarget argument) none rest

/-- The arguments that were read, if they agree: a fix needs an output, and a run is not both silent
and verbose. -/
def Seen.arguments? (seen : Seen) : Option Arguments := do
  let arguments : Arguments := {
    target := ← seen.target
    config := seen.setting? .config
    format := (seen.setting? .format).getD "simple"
    fix := seen.flags.contains .fix
    output := seen.setting? .output
    silent := seen.flags.contains .silent
    debug := seen.flags.contains .debug }
  if arguments.fix && arguments.output.isNone then none
  else if arguments.silent && arguments.debug then none
  else return arguments

def parse (arguments : List String) : Request :=
  match readAll {} none arguments with
  | .error .help => .help
  | .error .version => .version
  | .error .rejected => .rejected
  | .ok seen =>
    match seen.arguments? with
    | some arguments => .run arguments
    | none => .rejected

def versionText : String := "spacing-sniffs 0.1.0\n"

def helpText : String :=
  "Blank-line spacing sniffs for class bodies and methods, run over host-tokenized source\n\n" ++
  "Usage: spacing-sniffs [OPTIONS] <TARGET>\n\n" ++
  "Arguments:\n" ++
  "  <TARGET>  Token dump (JSON) or directory of token dumps to lint\n\n" ++
  "Options:\n" ++
  "  -c, --config <FILE>    Sets a custom config file\n" ++
  "      --format <FORMAT>  Output format: simple or json [default: simple]\n" ++
  "      --fix              Apply fixes and write the corrected source to --output\n" ++
  "  -o, --output <FILE>    Where to write the fixed source\n" ++
  "  -s, --silent           Only log errors\n" ++
  "  -d, --debug            Turn debugging information on\n" ++
  "  -h, --help             Print help\n" ++
  "  -V, --version          Print version\n"

end CommandLine

end BlankLines
