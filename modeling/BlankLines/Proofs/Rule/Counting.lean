import BlankLines.Proofs.Linter.Configured
import BlankLines.Proofs.Rule.Measure

/-!
What an accepted count asks for. Counts are read as natural numbers and compared as signed words, so those
below 2^63 ask for as many lines as they say, and all others for a negative number of them.
-/
namespace BlankLines

theorem Word.signed_eq_iff {n : Nat} : signed n = n ↔ n < half := by
  refine ⟨fun same => ?_, signed_of_lt⟩
  have bound : signed n < (half : Nat) := Int.bmod_lt (by decide)
  omega

namespace Check

variable {check : Check} {file : TokenFile} {position n : Nat} {rule : Rule} {settings : Settings}
  {declaration : String} {found : Int}

/-- A rule that is set up compares with the count that its settings hold. -/
theorem compares_setUp (own : rule.id = check.rule) (counted : settings.count check.key = .ok (some n))
    (ready : (rule.setUp (some settings)).2 = .ok ()) :
    check.Compares (rule.setUp (some settings)).1 n := by
  have counts := Rule.exists_count_of_readCounts ready
  cases rule with
  | braceSpacing a b =>
    obtain ⟨after, first⟩ := counts RuleId.afterOpeningKey (List.contains_iff_mem.mp rfl)
    obtain ⟨before, second⟩ := counts RuleId.beforeClosingKey (List.contains_iff_mem.mp rfl)
    have set : ((Rule.braceSpacing a b).setUp (some settings)).1 = _ :=
      Rule.readCounts_braceSpacing first second a b
    rw [set]
    cases check with
    | opening =>
      obtain rfl : after = some n := Except.ok.inj (first.symm.trans counted)
      exact .opening _ _
    | closing =>
      obtain rfl : before = some n := Except.ok.inj (second.symm.trans counted)
      exact .closing _ _
    | between => cases own
  | methodSpacing a =>
    obtain ⟨between, first⟩ := counts RuleId.betweenMethodsKey (List.contains_iff_mem.mp rfl)
    have set : ((Rule.methodSpacing a).setUp (some settings)).1 = _ :=
      Rule.readCounts_methodSpacing first a
    rw [set]
    cases check with
    | opening => cases own
    | closing => cases own
    | between =>
      obtain rfl : between = some n := Except.ok.inj (first.symm.trans counted)
      exact .between _

/-- A rule that is set up with an accepted count asks for its signed reading, so for the count itself
exactly when that is below 2^63. -/
theorem tells_count_iff (own : rule.id = check.rule)
    (counted : settings.count check.key = .ok (some n))
    (ready : (rule.setUp (some settings)).2 = .ok ()) (small : file.LinesBelow Word.half)
    (measures : Measures file position check declaration found) (level : Level) :
    check.Tells ((rule.setUp (some settings)).1.check file position level) declaration (Word.signed n)
        found ∧
      (check.Tells ((rule.setUp (some settings)).1.check file position level) declaration n found ↔
        n < Word.half) := by
  have tells := measures.tells small (compares_setUp own counted ready) level
  refine ⟨tells, fun itself => ?_, fun low => ?_⟩
  · exact Word.signed_eq_iff.mp (tells.wanted_eq itself)
  · rwa [Word.signed_of_lt low] at tells

/-- A class whose body begins on the line of its brace. -/
def crowdedBrace : TokenFile where
  tokens := [
    { kind := .classDecl, line := 1, content := "class", scopeOpener := some 1, scopeCloser := some 3 },
    { kind := .openBrace, line := 1, content := "\x7b" },
    { kind := .other, line := 1, content := "x" },
    { kind := .closeBrace, line := 1, content := "\x7d" }]

/-- The greatest count there is. -/
def widestCount : Settings :=
  [(RuleId.afterOpeningKey, .string "18446744073709551615")]

/-- Where lines without number are wanted and there is not even one, nothing is reported. -/
theorem tells_count_iff_widestCount :
    widestCount.count opening.key = .ok (some 0xFFFFFFFFFFFFFFFF) ∧
      Measures crowdedBrace 0 opening "class" (-1) ∧
      opening.Tells (((Rule.braceSpacing 1 1).setUp (some widestCount)).1.check crowdedBrace 0 .error)
        "class" (-1) (-1) ∧
      ¬ opening.Tells (((Rule.braceSpacing 1 1).setUp (some widestCount)).1.check crowdedBrace 0 .error)
        "class" (0xFFFFFFFFFFFFFFFF : Nat) (-1) := by
  have counted : widestCount.count opening.key = .ok (some 0xFFFFFFFFFFFFFFFF) := by decide +kernel
  have ready : ((Rule.braceSpacing 1 1).setUp (some widestCount)).2 = .ok () := by decide +kernel
  have small : crowdedBrace.LinesBelow Word.half := by decide +kernel
  have measures : Measures crowdedBrace 0 opening "class" (-1) :=
    @Measures.opening crowdedBrace 0 _ _ _ 1 2 rfl rfl rfl rfl (by decide) rfl (by decide)
  obtain ⟨tells, exactly⟩ := tells_count_iff rfl counted ready small measures .error
  exact ⟨counted, measures, tells, fun itself => absurd (exactly.mp itself) (by decide)⟩

end Check

end BlankLines
