import BlankLines.Proofs.Attempt
import BlankLines.Proofs.Json.Value
import BlankLines.Report

/-!
Reports in JSON read back. Whatever was found, the text holds all of it: the paths, the violations in
their order, and fixes as they are, so that an absent one differs from an empty one.
-/
namespace BlankLines

namespace Correction

theorem ofJson?_toJson (correction : Correction) : ofJson? correction.toJson = some correction := by
  cases correction <;> rfl

theorem inWords_toJson {correction : Correction} (word : correction.position < Word.size) :
    correction.toJson.InWords := by
  refine .object ?_
  simp only [List.forall_mem_cons]
  exact ⟨.string _, .ofNat word, nofun⟩

end Correction

namespace Changeset

theorem ofJson?_toJson (changeset : Changeset) : ofJson? (toJson changeset) = some changeset :=
  mapM_map_eq_some fun correction _ => correction.ofJson?_toJson

theorem inWords_toJson {changeset : Changeset}
    (words : ∀ correction ∈ changeset, correction.position < Word.size) :
    (toJson changeset).InWords :=
  .array (List.forall_mem_map.mpr fun correction member =>
    Correction.inWords_toJson (words correction member))

end Changeset

namespace Violation

/-- The numbers of a violation are words of 64 bits. -/
def InWords (violation : Violation) : Prop :=
  violation.position < Word.size ∧ violation.line < Word.size ∧
    ∀ changeset ∈ violation.fix, ∀ correction ∈ changeset, correction.position < Word.size

instance (violation : Violation) : Decidable violation.InWords :=
  inferInstanceAs (Decidable (_ ∧ _))

/-- A fix that is left out is read as an absent one, and an empty list as an empty one. -/
theorem ofJson?_toJson (violation : Violation) : ofJson? violation.toJson = some violation := by
  cases violation with
  | mk rule code level message position line fix =>
    cases fix with
    | none => cases level <;> rfl
    | some changeset =>
      have read : fixOfJson? (Changeset.toJson changeset) = some (some changeset) :=
        congrArg (Option.map some) (Changeset.ofJson?_toJson changeset)
      have parts : ofJson? (toJson ⟨rule, code, level, message, position, line, some changeset⟩) =
          ofParts? (.string rule) (.string code) (.string level.name) (.string message)
            (.ofNat position) (.ofNat line) (Changeset.toJson changeset) := by
        rfl
      rw [parts, ofParts?, read]
      cases level <;> rfl

theorem inWords_toJson {violation : Violation} (words : violation.InWords) :
    violation.toJson.InWords := by
  obtain ⟨position, line, fix⟩ := words
  refine .object (List.forall_mem_append.mpr ⟨?_, ?_⟩)
  · simp only [List.forall_mem_cons]
    exact ⟨.string _, .string _, .string _, .string _, .ofNat position, .ofNat line, nofun⟩
  · refine List.forall_mem_map.mpr fun changeset present => ?_
    exact Changeset.inWords_toJson (fix changeset (Option.mem_toList.mp present))

end Violation

namespace FileReport

theorem ofJson?_toJson (report : FileReport) : ofJson? report.toJson = some report := by
  have read := mapM_map_eq_some fun violation (_ : violation ∈ report.violations) =>
    violation.ofJson?_toJson
  have parts : ofJson? report.toJson =
      (do return ⟨report.path, ← (report.violations.map Violation.toJson).mapM Violation.ofJson?⟩) := by
    rfl
  rw [parts, read]
  rfl

theorem inWords_toJson {report : FileReport}
    (words : ∀ violation ∈ report.violations, violation.InWords) : report.toJson.InWords := by
  refine .object ?_
  simp only [List.forall_mem_cons]
  refine ⟨.string _, .array (List.forall_mem_map.mpr fun violation member => ?_), nofun⟩
  exact Violation.inWords_toJson (words violation member)

end FileReport

namespace Report

/-- The reports that a JSON text lists. -/
def ofJsonText? (text : String) : Option (List FileReport) := do
  let value ← (Json.parse text).toOption
  (← value.items?).mapM FileReport.ofJson?

variable {reports : List FileReport}

theorem ofJsonText?_jsonText
    (words : ∀ report ∈ reports, ∀ violation ∈ report.violations, violation.InWords) :
    ofJsonText? (jsonText reports) = some reports := by
  have value : (Json.Value.array (reports.map FileReport.toJson)).InWords :=
    .array (List.forall_mem_map.mpr fun report member => FileReport.inWords_toJson (words report member))
  have space : ∀ c ∈ ['\n'], Json.isSpace c = true := List.forall_mem_singleton.mpr rfl
  have parsed : Json.parse (jsonText reports) = .ok (.array (reports.map FileReport.toJson)) :=
    Json.parse_toPrettyText_append value space
  have items := mapM_map_eq_some fun report (_ : report ∈ reports) => report.ofJson?_toJson
  rw [ofJsonText?, parsed]
  exact items

/-- The JSON report is read back as what was reported, so two lists of reports never have one text. -/
theorem render_json_readable
    (words : ∀ report ∈ reports, ∀ violation ∈ report.violations, violation.InWords) :
    ofJsonText? (render .json reports) = some reports ∧
      ∀ others : List FileReport,
        (∀ report ∈ others, ∀ violation ∈ report.violations, violation.InWords) →
          render .json others = render .json reports → others = reports := by
  refine ⟨ofJsonText?_jsonText words, fun others words' same => ?_⟩
  have read := ofJsonText?_jsonText words'
  rw [show jsonText others = jsonText reports from same, ofJsonText?_jsonText words] at read
  exact (Option.some.inj read).symm

/-- Two files. The fix of the first violation is left out, that of the second is empty. -/
def everyFix : List FileReport :=
  [{ path := "sub/\"a\"\té.json"
     violations :=
      [{ rule := "R", code := "C", level := .error, message := "\u0001\\", position := 0, line := 1 },
        { rule := "", code := "", level := .warning, message := "", position := Word.size - 1, line := 2,
          fix := some [] },
        { rule := "R", code := "C", level := .error, message := "m", position := 3, line := Word.size - 1,
          fix := some [.delete (Word.size - 1), .insertNewline 0] }] },
    { path := "", violations := [] }]

theorem render_json_readable_everyFix :
    (∀ report ∈ everyFix, ∀ violation ∈ report.violations, violation.InWords) ∧
      ofJsonText? (render .json everyFix) = some everyFix ∧
      ∀ others : List FileReport,
        (∀ report ∈ others, ∀ violation ∈ report.violations, violation.InWords) →
          render .json others = render .json everyFix → others = everyFix := by
  have words : ∀ report ∈ everyFix, ∀ violation ∈ report.violations, violation.InWords := by decide
  exact ⟨words, render_json_readable words⟩

end Report

end BlankLines
