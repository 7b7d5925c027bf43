import BlankLines.Json.Printer
import BlankLines.Json.Reader
import BlankLines.TokenFile.Layout
import BlankLines.TokenFile.Validity

/-!
The JSON dump of a lexed file. Reading goes from the left and stops at the first fault; a file that is
read is then validated and its white space cut.
-/
namespace BlankLines

inductive DumpError where
  | unreadable (fault : Json.Fault)
  | invalid (fault : FileFault)
deriving Repr, DecidableEq

namespace Token

/-- The members of a token. Absent scopes are left out. -/
def toJson (token : Token) : Json.Value :=
  let scope (name : String) (position : Option Nat) : List (String × Json.Value) :=
    position.toList.map fun n => (name, .ofNat n)
  .object <|
    [("kind", .string token.kind.name), ("line", .ofNat token.line),
      ("content", .string token.content)] ++
    scope "scope_opener" token.scopeOpener ++ scope "scope_closer" token.scopeCloser

end Token

namespace TokenFile

def toJson (file : TokenFile) : Json.Value :=
  .object [("eol", .string file.eol), ("tokens", .array (file.tokens.map Token.toJson))]

def dump (file : TokenFile) : String :=
  file.toJson.toText

end TokenFile

structure TokenFields where
  kind : Option TokenKind := none
  line : Option Nat := none
  content : Option String := none
  scopeOpener : Option (Option Nat) := none
  scopeCloser : Option (Option Nat) := none

namespace TokenFields

open Json

def readKind : Reader TokenKind := fun text => do
  let (name, text) ← readText text
  return (.ofName name, text)

/-- Reads the member of that name. Members of other names are passed over. -/
def readField (bound : Nat) (fields : TokenFields) (name : String) :
    Reader TokenFields := fun text => do
  if name = "kind" then
    let (kind, text) ← readOnce fields.kind.isSome readKind text
    return ({ fields with kind := some kind }, text)
  else if name = "line" then
    let (line, text) ← readOnce fields.line.isSome readNat text
    return ({ fields with line := some line }, text)
  else if name = "content" then
    let (content, text) ← readOnce fields.content.isSome readText text
    return ({ fields with content := some content }, text)
  else if name = "scope_opener" then
    let (scope, text) ← readOnce fields.scopeOpener.isSome (readOptional readNat) text
    return ({ fields with scopeOpener := some scope }, text)
  else if name = "scope_closer" then
    let (scope, text) ← readOnce fields.scopeCloser.isSome (readOptional readNat) text
    return ({ fields with scopeCloser := some scope }, text)
  else
    let (_, text) ← skipMember bound text
    return (fields, text)

/-- The token of these fields; kind, line and content are required. -/
def token? (fields : TokenFields) : Option Token := do
  let kind ← fields.kind
  let line ← fields.line
  let content ← fields.content
  return {
    kind, line, content
    scopeOpener := fields.scopeOpener.join
    scopeCloser := fields.scopeCloser.join }

end TokenFields

namespace Token

open Json

def readNamed (bound : Nat) : Reader Token := fun text => do
  let (fields, text) ← readMembers (TokenFields.readField bound) bound true {} text
  match fields.token? with
  | some token => return (token, text)
  | none => throw .mismatched

def readListed : Reader Token := fun text => do
  let (kind, text) ← readRequired true TokenFields.readKind text
  let (line, text) ← readRequired false readNat text
  let (content, text) ← readRequired false readText text
  let (scopeOpener, text) ← readTrailing false none (readOptional readNat) text
  let (scopeCloser, text) ← readTrailing false none (readOptional readNat) text
  return ({ kind, line, content, scopeOpener, scopeCloser }, text)

/-- A token in either form. -/
def read (bound : Nat) : Reader Token :=
  readRecord (readNamed bound) readListed

end Token

structure FileFields where
  eol : Option String := none
  tokens : Option (List Token) := none

namespace FileFields

open Json

/-- Reads the member of that name. Members of other names are passed over. -/
def readField (bound : Nat) (fields : FileFields) (name : String) : Reader FileFields := fun text => do
  if name = "eol" then
    let (eol, text) ← readOnce fields.eol.isSome readText text
    return ({ fields with eol := some eol }, text)
  else if name = "tokens" then
    let (tokens, text) ← readOnce fields.tokens.isSome (readList bound (Token.read bound)) text
    return ({ fields with tokens := some tokens }, text)
  else
    let (_, text) ← skipMember bound text
    return (fields, text)

end FileFields

namespace TokenFile

open Json

def defaultEol : String := "\n"

/-- A file written as an object. -/
def readNamed (bound : Nat) : Reader TokenFile := fun text => do
  let (fields, text) ← readMembers (FileFields.readField bound) bound true {} text
  match fields.tokens with
  | some tokens => return ({ eol := fields.eol.getD defaultEol, tokens }, text)
  | none => throw .mismatched

/-- A file written as the list of its fields. -/
def readListed (bound : Nat) : Reader TokenFile := fun text => do
  let (eol, text) ← readTrailing true defaultEol readText text
  let (tokens, text) ← readRequired false (readList bound (Token.read bound)) text
  return ({ eol, tokens }, text)

/-- The file that a dump writes, as it stands. -/
def parseDump (text : String) : Except Fault TokenFile :=
  let chars := text.toList
  let bound := stepBound chars
  readAll (readRecord (readNamed bound) (readListed bound)) chars

/-- The file that a dump writes, validated and with its white space cut. -/
def ofDump (text : String) : Except DumpError TokenFile :=
  match parseDump text with
  | .error fault => .error (.unreadable fault)
  | .ok file =>
    match file.validate with
    | .error fault => .error (.invalid fault)
    | .ok () => .ok file.splitLineBreaks

end TokenFile

end BlankLines
