import BlankLines.Proofs.Text.Number
import BlankLines.Run
import Mathlib.Algebra.Ring.Nat
import Mathlib.Data.List.Basic

/-!
The report for reading. One line tells of each violation, and the summary of their numbers: who has the
text knows whether there are errors.
-/
namespace BlankLines

namespace Report

/-- The line on a violation. -/
def line (path : String) (violation : Violation) : String :=
  s!"{path}:{violation.line}: [{violation.level.name}] {violation.message} " ++
    s!"({violation.rule}.{violation.code})"

/-- The lines on all violations, file by file and within a file one after another. -/
inductive Records : List FileReport → List String → Prop
  | none : Records [] []
  | file {path : String} {reports : List FileReport} {lines : List String}
      (rest : Records reports lines) : Records (⟨path, []⟩ :: reports) lines
  | violation {path : String} {violation : Violation} {violations : List Violation}
      {reports : List FileReport} {lines : List String}
      (rest : Records (⟨path, violations⟩ :: reports) lines) :
    Records (⟨path, violation :: violations⟩ :: reports) (line path violation :: lines)

/-- How many violations of a level there are in all files. -/
def total (level : Level) (reports : List FileReport) : Nat :=
  (reports.map fun report => report.violations.countP (·.level = level)).sum

/-- A number and its noun, which stands in the plural except at one. -/
inductive Numbers (noun : String) : Nat → List String → Prop
  | one : Numbers noun 1 ["1", noun]
  | other {n : Nat} (many : n ≠ 1) : Numbers noun n [toString n, noun ++ "s"]

/-- The words on what was found. A kind of which there is none is not named. -/
inductive Finds : Nat → Nat → List String → Prop
  | nothing : Finds 0 0 ["No", "errors", "or", "warnings", "found"]
  | warnings {warnings : Nat} {words : List String} (some : 0 < warnings)
      (number : Numbers "warning" warnings words) : Finds 0 warnings ("Found" :: words)
  | errors {errors : Nat} {words : List String} (some : 0 < errors)
      (number : Numbers "error" errors words) : Finds errors 0 ("Found" :: words)
  | both {errors warnings : Nat} {words words' : List String} (some : 0 < errors)
      (some' : 0 < warnings) (number : Numbers "error" errors words)
      (number' : Numbers "warning" warnings words') :
    Finds errors warnings ("Found" :: words ++ "and" :: words')

/-- The words of a summary: what was found, and in how many files. -/
inductive Summary (errors warnings files : Nat) : List String → Prop
  | words {found number : List String} (finds : Finds errors warnings found)
      (numbers : Numbers "file" files number) : Summary errors warnings files (found ++ "in" :: number)

/-- Lines with an ending each. -/
def unlines (lines : List String) : String :=
  String.join (lines.map (· ++ "\n"))

/-- A text tells of reports: the line on each violation, an empty line if there is one, the summary. -/
def Tells (reports : List FileReport) (text : String) : Prop :=
  ∃ records words, Records reports records ∧
    Summary (total .error reports) (total .warning reports) reports.length words ∧
    text = unlines (records ++ (if records = [] then [] else [""]) ++ [" ".intercalate words])

variable {reports others : List FileReport} {level : Level} {noun text : String}
  {n errors warnings files errors' warnings' files' : Nat} {words words' lines : List String}

theorem record_eq (path : String) (violation : Violation) :
    record path violation = line path violation ++ "\n" := by
  simp only [record, line, toString, String.append_assoc]
  rfl

theorem exists_records (reports : List FileReport) : ∃ lines, Records reports lines ∧
    (reports.flatMap fun report => report.violations.map (record report.path)) =
      lines.map (· ++ "\n") := by
  induction reports with
  | nil => exact ⟨[], .none, rfl⟩
  | cons report reports ih =>
    obtain ⟨path, violations⟩ := report
    induction violations with
    | nil =>
      obtain ⟨lines, rest, same⟩ := ih
      exact ⟨lines, .file rest, same⟩
    | cons violation violations inner =>
      obtain ⟨lines, rest, same⟩ := inner
      refine ⟨line path violation :: lines, .violation rest, ?_⟩
      rw [List.map_cons, ← same, ← record_eq]
      rfl

theorem errorCount_eq (reports : List FileReport) : errorCount reports = total .error reports := by
  rw [errorCount, List.countP_flatMap]
  rfl

/-- What is no error is a warning. -/
theorem warningCount_eq (reports : List FileReport) : warningCount reports = total .warning reports := by
  have level (violation : Violation) : (!violation.isError) = decide (violation.level = .warning) := by
    rw [Violation.isError]
    cases violation.level <;> rfl
  rw [warningCount, List.countP_flatMap, funext level]
  rfl

theorem numbers_counted (n : Nat) (noun : String) :
    ∃ words, Numbers noun n words ∧ counted n noun = " ".intercalate words := by
  rw [counted]
  split
  · next one =>
    subst one
    refine ⟨_, .one, ?_⟩
    rw [String.intercalate_cons_cons, String.intercalate_singleton, String.append_empty]
    rfl
  · next many =>
    refine ⟨_, .other many, ?_⟩
    rw [String.intercalate_cons_cons, String.intercalate_singleton, String.append_assoc]

theorem Numbers.ne_nil (numbers : Numbers noun n words) : words ≠ [] := by
  cases numbers <;> exact List.cons_ne_nil _ _

theorem intercalate_linked (link : String) (some : words ≠ []) (some' : words' ≠ []) :
    " ".intercalate (words ++ link :: words') =
      " ".intercalate words ++ (" " ++ link ++ " ") ++ " ".intercalate words' := by
  rw [String.intercalate_append_of_ne_nil some (List.cons_ne_nil _ _),
    String.intercalate_cons_of_ne_nil some']
  simp only [String.append_assoc]

theorem finds_findings (errors warnings : Nat) :
    ∃ words, Finds errors warnings words ∧ words ≠ [] ∧
      findings errors warnings = " ".intercalate words := by
  obtain ⟨words, number, text⟩ := numbers_counted errors "error"
  obtain ⟨words', number', text'⟩ := numbers_counted warnings "warning"
  rw [findings]
  rcases Nat.eq_zero_or_pos errors with rfl | some <;> rcases Nat.eq_zero_or_pos warnings with rfl | some'
  · exact ⟨_, .nothing, List.cons_ne_nil _ _, by simp⟩
  · refine ⟨_, .warnings some' number', List.cons_ne_nil _ _, ?_⟩
    rw [if_neg (by simp; omega), if_pos rfl, text', String.intercalate_cons_of_ne_nil number'.ne_nil]
    rfl
  · refine ⟨_, .errors some number, List.cons_ne_nil _ _, ?_⟩
    rw [if_neg (by simp; omega), if_neg (by omega), if_pos rfl, text,
      String.intercalate_cons_of_ne_nil number.ne_nil]
    rfl
  · refine ⟨_, .both some some' number number', List.cons_ne_nil _ _, ?_⟩
    rw [if_neg (by simp; omega), if_neg (by omega), if_neg (by omega), text, text',
      intercalate_linked "and" (List.cons_ne_nil _ _) number'.ne_nil,
      String.intercalate_cons_of_ne_nil number.ne_nil]
    rfl

theorem summary_words (reports : List FileReport) : ∃ words,
    Summary (total .error reports) (total .warning reports) reports.length words ∧
      summary reports = " ".intercalate words := by
  obtain ⟨found, finds, some, text⟩ := finds_findings (total .error reports) (total .warning reports)
  obtain ⟨number, numbers, text'⟩ := numbers_counted reports.length "file"
  refine ⟨_, .words finds numbers, ?_⟩
  rw [summary, errorCount_eq, warningCount_eq, text, text', intercalate_linked "in" some numbers.ne_nil]
  rfl

theorem tells_simpleText (reports : List FileReport) : Tells reports (simpleText reports) := by
  obtain ⟨records, recorded, same⟩ := exists_records reports
  obtain ⟨words, summary, text⟩ := summary_words reports
  refine ⟨records, words, recorded, summary, ?_⟩
  rw [simpleText, same, text]
  cases records <;> simp [unlines, String.append_assoc]

/-- Words hold neither the blank that parts them nor the line ending behind them. -/
def Solid (words : List String) : Prop :=
  ∀ word ∈ words, ' ' ∉ word.toList ∧ '\n' ∉ word.toList

instance (words : List String) : Decidable (Solid words) :=
  inferInstanceAs (Decidable (∀ word ∈ words, _ ∧ _))

theorem Solid.append (solid : Solid words) (solid' : Solid words') : Solid (words ++ words') :=
  List.forall_mem_append.mpr ⟨solid, solid'⟩

theorem solid_number (n : Nat) : Solid [toString n] := by
  refine List.forall_mem_singleton.mpr ?_
  have digits {c : Char} (other : c.isDigit = false) : c ∉ (toString n).toList := by
    intro member
    rw [Nat.toString_eq_repr, Nat.toList_repr] at member
    exact absurd (other.symm.trans (Text.isDigit_of_mem_printed c member)) Bool.false_ne_true
  exact ⟨digits rfl, digits rfl⟩

theorem Numbers.solid (numbers : Numbers noun n words) (single : Solid [noun])
    (plural : Solid [noun ++ "s"]) : Solid words := by
  cases numbers with
  | one =>
    have one : Solid ["1"] := by decide
    exact one.append single
  | other many => exact (solid_number n).append plural

theorem Finds.solid (finds : Finds errors warnings words) : Solid words := by
  have found : Solid ["Found"] := by decide
  have link : Solid ["and"] := by decide
  cases finds with
  | nothing => decide
  | warnings some number => exact found.append (number.solid (by decide) (by decide))
  | errors some number => exact found.append (number.solid (by decide) (by decide))
  | both some some' number number' =>
    exact (found.append (number.solid (by decide) (by decide))).append
      (link.append (number'.solid (by decide) (by decide)))

theorem Summary.solid (summary : Summary errors warnings files words) : Solid words := by
  obtain ⟨finds, numbers⟩ := summary
  have link : Solid ["in"] := by decide
  exact finds.solid.append (link.append (numbers.solid (by decide) (by decide)))

theorem Numbers.exists_eq (numbers : Numbers noun n words) :
    ∃ word, (word = noun ∨ word = noun ++ "s") ∧ words = [toString n, word] := by
  cases numbers with
  | one => exact ⟨noun, .inl rfl, rfl⟩
  | other many => exact ⟨noun ++ "s", .inr rfl, rfl⟩

theorem Summary.ne_nil (summary : Summary errors warnings files words) : words ≠ [] := by
  obtain ⟨-, -⟩ := summary
  exact List.append_ne_nil_of_right_ne_nil _ (List.cons_ne_nil _ _)

/-- The third word of a summary is about errors only if there are some. -/
theorem Summary.errors_iff (summary : Summary errors warnings files words) :
    0 < errors ↔ words[2]? = some "error" ∨ words[2]? = some ("error" ++ "s") := by
  obtain ⟨finds, -⟩ := summary
  cases finds with
  | nothing => simp
  | warnings some number =>
    obtain ⟨noun, rfl | rfl, rfl⟩ := number.exists_eq <;> simp
  | errors some number =>
    obtain ⟨noun, rfl | rfl, rfl⟩ := number.exists_eq <;> simp [some]
  | both some some' number number' =>
    obtain ⟨noun, rfl | rfl, rfl⟩ := number.exists_eq <;> simp [some]

/-- Solid words are read off the line that they make. -/
theorem Solid.eq_of_line (solid : Solid words) (solid' : Solid words') (some : words ≠ [])
    (some' : words' ≠ []) (same : " ".intercalate words = " ".intercalate words') : words = words' := by
  have parted {words : List String} (solid : Solid words) (some : words ≠ []) :
      List.splitOn ' ' (" ".intercalate words).toList = words.map String.toList := by
    rw [String.toList_intercalate]
    exact List.splitOn_intercalate ' ' (List.forall_mem_map.mpr fun word member => (solid word member).1)
      (List.map_eq_nil_iff.not.mpr some)
  have chars : words.map String.toList = words'.map String.toList := by
    rw [← parted solid some, ← parted solid' some', same]
  exact List.map_injective_iff.mpr (fun _ _ => String.toList_injective) chars

theorem Solid.notMem_line (solid : Solid words) : '\n' ∉ (" ".intercalate words).toList := by
  induction words with
  | nil => simp
  | cons word words ih =>
    obtain ⟨first, rest⟩ := List.forall_mem_cons.mp solid
    cases words with
    | nil =>
      rw [String.intercalate_singleton]
      exact first.2
    | cons next words =>
      rw [String.intercalate_cons_cons, String.toList_append, String.toList_append, List.mem_append,
        List.mem_append]
      rintro ((here | blank) | later)
      · exact first.2 here
      · exact absurd blank (by decide)
      · exact ih rest later

theorem toList_unlines_append (last : String) : (unlines (lines ++ [last])).toList =
    (unlines lines).toList ++ last.toList ++ ['\n'] := by
  rw [unlines, unlines, List.map_append, List.map_singleton, String.toList_join, List.flatMap_append,
    ← String.toList_join, List.flatMap_singleton, String.toList_append, ← List.append_assoc]
  rfl

/-- The last line of a text is what follows the line ending before the last one. -/
theorem takeWhile_unlines {last : String} (solid : '\n' ∉ last.toList) :
    (unlines (lines ++ [last])).toList.dropLast.reverse.takeWhile (· ≠ '\n') = last.toList.reverse := by
  have stays : ∀ c ∈ last.toList.reverse, decide (c ≠ '\n') = true := fun c member =>
    decide_eq_true fun same => solid (same ▸ List.mem_reverse.mp member)
  rw [toList_unlines_append, List.dropLast_concat, List.reverse_append,
    List.takeWhile_append_of_pos stays]
  rcases List.eq_nil_or_concat' lines with rfl | ⟨front, line, rfl⟩
  · exact List.append_nil _
  · rw [toList_unlines_append, List.reverse_append]
    exact List.append_nil _

/-- Reports of which one text tells have errors alike. -/
theorem Tells.errors_iff (tells : Tells reports text) (tells' : Tells others text) :
    0 < total .error reports ↔ 0 < total .error others := by
  obtain ⟨records, words, -, summary, made⟩ := tells
  obtain ⟨records', words', -, summary', made'⟩ := tells'
  have line := @takeWhile_unlines (records ++ if records = [] then [] else [""]) _
    summary.solid.notMem_line
  rw [← made, made', takeWhile_unlines summary'.solid.notMem_line] at line
  have same := String.toList_injective (List.reverse_injective line)
  rw [summary.errors_iff, summary'.errors_iff,
    summary'.solid.eq_of_line summary.solid summary'.ne_nil summary.ne_nil same]

end Report

end BlankLines
