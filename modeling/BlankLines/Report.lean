import BlankLines.Json.Printer
import BlankLines.Violation

/-!
Reports on linted files: one line a violation with a summary, or JSON with the fixes.
-/
namespace BlankLines

structure FileReport where
  path : String
  violations : List Violation
deriving Repr, DecidableEq

namespace FileReport

def hasErrors (report : FileReport) : Bool :=
  report.violations.any (·.isError)

def toJson (report : FileReport) : Json.Value :=
  .object [("file_path", .string report.path),
    ("errors", .array (report.violations.map Violation.toJson))]

def ofJson? (value : Json.Value) : Option FileReport := do
  let path ← (← value.member? "file_path").text?
  let violations ← (← (← value.member? "errors").items?).mapM Violation.ofJson?
  return { path, violations }

end FileReport

inductive Format where
  | simple
  | json
deriving Repr, DecidableEq

namespace Format

def ofName? (name : String) : Option Format :=
  if name = "simple" then some simple
  else if name = "json" then some json
  else none

def refusal (name : String) : String :=
  "Variant not found: " ++ name

/-- Whether a silent run leaves out a report in this format. -/
def isForReading : Format → Bool
  | simple => true
  | json => false

end Format

namespace Report

def record (path : String) (violation : Violation) : String :=
  path ++ ":" ++ toString violation.line ++ ": [" ++ violation.level.name ++ "] " ++
    violation.message ++ " (" ++ violation.rule ++ "." ++ violation.code ++ ")\n"

def errorCount (reports : List FileReport) : Nat :=
  (reports.flatMap (·.violations)).countP (·.isError)

def warningCount (reports : List FileReport) : Nat :=
  (reports.flatMap (·.violations)).countP (!·.isError)

/-- A number with its noun, in the plural except at one. -/
def counted (n : Nat) (noun : String) : String :=
  toString n ++ " " ++ noun ++ (if n = 1 then "" else "s")

/-- What was found. A kind of which there is none is not named. -/
def findings (errors warnings : Nat) : String :=
  if errors = 0 && warnings = 0 then "No errors or warnings found"
  else if errors = 0 then "Found " ++ counted warnings "warning"
  else if warnings = 0 then "Found " ++ counted errors "error"
  else "Found " ++ counted errors "error" ++ " and " ++ counted warnings "warning"

def summary (reports : List FileReport) : String :=
  findings (errorCount reports) (warningCount reports) ++ " in " ++ counted reports.length "file"

/-- The lines on all violations, and after an empty line, the summary. -/
def simpleText (reports : List FileReport) : String :=
  let records := reports.flatMap fun report => report.violations.map (record report.path)
  String.join records ++ (if records.isEmpty then "" else "\n") ++ summary reports ++ "\n"

/-- The reports as an indented JSON list. -/
def jsonText (reports : List FileReport) : String :=
  (Json.Value.array (reports.map FileReport.toJson)).toPrettyText ++ "\n"

def render (format : Format) (reports : List FileReport) : String :=
  match format with
  | .simple => simpleText reports
  | .json => jsonText reports

end Report

end BlankLines
