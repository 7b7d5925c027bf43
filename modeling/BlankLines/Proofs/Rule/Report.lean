import BlankLines.Linter
import BlankLines.Proofs.TokenFile.Solid

/-!
What the rules report, one equivalence for each check, and the repair that a report proposes.
-/
namespace BlankLines

variable {file : TokenFile} {level : Level} {violation : Violation} {position : Nat}

theorem Violation.atToken?_eq_some_iff {rule code message : String} {repair : Changeset} :
    atToken? file position rule code level message repair = some violation ↔
      ∃ token, file.tokens[position]? = some token ∧ violation =
        { rule, code, level, message, position
          line := token.line
          fix := if repair.isEmpty then none else some repair } := by
  rw [atToken?, Option.map_eq_some_iff]
  exact exists_congr fun token => and_congr_right' eq_comm

theorem Violation.exists_atToken? {token : Token} (found : file.tokens[position]? = some token)
    (rule code : String) (level : Level) (message : String) (repair : Changeset) :
    ∃ violation, atToken? file position rule code level message repair = some violation :=
  ⟨_, atToken?_eq_some_iff.mpr ⟨token, found, rfl⟩⟩

theorem Violation.fix_atToken? {rule code message : String} {repair : Changeset}
    (reported : atToken? file position rule code level message repair = some violation) :
    violation.fix = if repair.isEmpty then none else some repair := by
  obtain ⟨_, _, rfl⟩ := atToken?_eq_some_iff.mp reported
  rfl

theorem delete_mem_gapRepair {found wanted : Int} {anchor : Nat} {removable : List Nat} :
    .delete position ∈ gapRepair found wanted anchor removable ↔ wanted < found ∧
      position ∈ removable.drop (removable.length - (found - wanted).toNat) := by
  unfold gapRepair
  split
  · next surplus =>
    simp only [List.mem_map, Correction.delete.injEq, exists_eq_right, surplus, true_and]
  · next fitting => simp [fitting]

/-- Deletions are taken from the end, so line breaks that are left over at the front do not matter. -/
theorem gapRepair_append {found wanted : Int} {anchor : Nat} {front back : List Nat}
    (few : (found - wanted).toNat ≤ back.length) :
    gapRepair found wanted anchor (front ++ back) = gapRepair found wanted anchor back := by
  have start : (front ++ back).length - (found - wanted).toNat =
      front.length + (back.length - (found - wanted).toNat) := by
    rw [List.length_append]
    omega
  rw [gapRepair, gapRepair, start, List.drop_append, List.drop_eq_nil_of_le (by omega),
    List.nil_append, Nat.add_sub_cancel_left]

namespace BraceSpacing

variable {wanted opener closer : Nat} {declaration : String}

theorem checkOpening_eq_some_iff :
    checkOpening wanted file declaration opener level = some violation ↔
      ∃ brace next follower, file.tokens[opener]? = some brace ∧
        file.findNext [.whitespace] (opener + 1) none true = some next ∧
        file.tokens[next]? = some follower ∧ hugsOpening follower.kind = false ∧
        follower.lineDelta brace - 1 ≠ Word.signed wanted ∧
        Violation.atToken? file opener RuleId.braceSpacing.name openingCode level
          (openingMessage declaration (Word.signed wanted) (follower.lineDelta brace - 1))
          (gapRepair (follower.lineDelta brace - 1) (Word.signed wanted) opener
            (file.lineBreaks (opener + 1) next)) = some violation := by
  simp only [checkOpening, Option.bind_eq_bind, Option.bind_eq_some_iff, Bool.or_eq_true,
    decide_eq_true_eq, Option.ite_none_left_eq_some, not_or, Bool.not_eq_true, and_assoc,
    exists_and_left, ne_eq]

theorem checkClosing_eq_some_iff :
    checkClosing wanted file declaration closer level = some violation ↔
      ∃ brace previous leader, file.tokens[closer]? = some brace ∧ closer ≠ 0 ∧
        file.findPrevious [.whitespace] (closer - 1) none true = some previous ∧
        file.tokens[previous]? = some leader ∧
        brace.lineDelta leader - 1 ≠ Word.signed wanted ∧
        Violation.atToken? file closer RuleId.braceSpacing.name closingCode level
          (closingMessage declaration (Word.signed wanted) (brace.lineDelta leader - 1))
          (gapRepair (brace.lineDelta leader - 1) (Word.signed wanted) previous
            (file.lineBreaks (previous + 1) closer)) = some violation := by
  by_cases start : closer = 0
  · simp [checkClosing, start]
  · simp only [checkClosing, start, if_false, Option.bind_eq_bind, Option.bind_eq_some_iff,
      Option.ite_none_left_eq_some, not_false_eq_true, true_and, exists_and_left, ne_eq]

theorem mem_check_iff {afterOpening beforeClosing : Nat} :
    violation ∈ check afterOpening beforeClosing file position level ↔
      ∃ token opener closer, file.tokens[position]? = some token ∧
        token.scopeOpener = some opener ∧ token.scopeCloser = some closer ∧
        (checkOpening afterOpening file token.content opener level = some violation ∨
          checkClosing beforeClosing file token.content closer level = some violation) := by
  unfold check
  split
  · next content opener closer found =>
    simp [found]
  · next missing =>
    simp only [List.not_mem_nil, false_iff]
    rintro ⟨⟨kind, line, content, _, _⟩, opener, closer, found, rfl, rfl, _⟩
    exact missing _ _ _ _ _ found

theorem code_of_checkOpening (reported : checkOpening wanted file declaration opener level = some violation) :
    violation.code = openingCode := by
  obtain ⟨_, _, _, _, _, _, _, _, report⟩ := checkOpening_eq_some_iff.mp reported
  obtain ⟨_, _, rfl⟩ := Violation.atToken?_eq_some_iff.mp report
  rfl

theorem code_of_checkClosing (reported : checkClosing wanted file declaration closer level = some violation) :
    violation.code = closingCode := by
  obtain ⟨_, _, _, _, _, _, _, _, report⟩ := checkClosing_eq_some_iff.mp reported
  obtain ⟨_, _, rfl⟩ := Violation.atToken?_eq_some_iff.mp report
  rfl

theorem openingCode_ne : openingCode ≠ closingCode := by
  decide

section

variable {token : Token} {afterOpening beforeClosing : Nat}
  (found : file.tokens[position]? = some token) (opens : token.scopeOpener = some opener)
  (closes : token.scopeCloser = some closer)
include found opens closes

/-- The reports at a declaration on its opening brace. -/
theorem mem_check_opening_iff :
    violation ∈ check afterOpening beforeClosing file position level ∧ violation.code = openingCode ↔
      checkOpening afterOpening file token.content opener level = some violation := by
  rw [mem_check_iff]
  constructor
  · rintro ⟨⟨_, _, _, found', opens', _, opening | closing⟩, code⟩
    · obtain rfl := Option.some.inj (found.symm.trans found')
      obtain rfl := Option.some.inj (opens.symm.trans opens')
      exact opening
    · exact absurd (code.symm.trans (code_of_checkClosing closing)) openingCode_ne
  · exact fun opening => ⟨⟨token, opener, closer, found, opens, closes, .inl opening⟩,
      code_of_checkOpening opening⟩

/-- The reports at a declaration on its closing brace. -/
theorem mem_check_closing_iff :
    violation ∈ check afterOpening beforeClosing file position level ∧ violation.code = closingCode ↔
      checkClosing beforeClosing file token.content closer level = some violation := by
  rw [mem_check_iff]
  constructor
  · rintro ⟨⟨_, _, _, found', _, closes', opening | closing⟩, code⟩
    · exact absurd ((code_of_checkOpening opening).symm.trans code) openingCode_ne
    · obtain rfl := Option.some.inj (found.symm.trans found')
      obtain rfl := Option.some.inj (closes.symm.trans closes')
      exact closing
  · exact fun closing => ⟨⟨token, opener, closer, found, opens, closes, .inr closing⟩,
      code_of_checkClosing closing⟩

end

end BraceSpacing

/-- The rule reports at a method whose next content is neither the end of the file nor of the body. -/
theorem MethodSpacing.mem_check_iff {between : Nat} :
    violation ∈ check between file position level ↔
      declaresInterface file = false ∧ ∃ closer start next before after,
        closer? file position = some closer ∧ nextLineStart? file closer = some start ∧
        nextContent? file closer = some next ∧ file.tokens[start]? = some before ∧
        file.tokens[next]? = some after ∧ isLast file closer = false ∧
        after.lineDelta before ≠ Word.signed between ∧
        Violation.atToken? file position RuleId.methodSpacing.name code level
          (message (Word.signed between) (after.lineDelta before))
          (gapRepair (after.lineDelta before) (Word.signed between) (editAnchor file closer)
            (file.lineBreaks (closer + 1) next)) = some violation := by
  constructor
  · intro reported
    cases interface : declaresInterface file with
    | true =>
      rw [check, interface, if_pos rfl] at reported
      exact absurd reported List.not_mem_nil
    | false =>
      rw [check, interface, if_neg Bool.false_ne_true] at reported
      cases closes : closer? file position with
      | none =>
        rw [closes] at reported
        exact absurd reported List.not_mem_nil
      | some closer =>
        rw [closes] at reported
        dsimp only at reported
        by_cases exempt : (isLast file closer || decide
            ((blankLines? file closer).getD (Word.signed between) = Word.signed between)) = true
        · rw [if_pos exempt] at reported
          exact absurd reported List.not_mem_nil
        · rw [if_neg exempt, Option.mem_toList] at reported
          rw [Bool.or_eq_true, not_or, decide_eq_true_eq, Bool.not_eq_true] at exempt
          cases measured : blankLines? file closer with
          | none =>
            rw [measured, Option.getD_none] at exempt
            exact absurd rfl exempt.2
          | some found =>
            rw [measured, Option.getD_some] at reported exempt
            simp only [blankLines?, Option.bind_eq_bind, Option.bind_eq_some_iff, Option.pure_def,
              Option.some.injEq] at measured
            obtain ⟨start, starts, before, foundStart, next, content, after, foundNext, rfl⟩ := measured
            rw [content, Option.getD_some] at reported
            exact ⟨rfl, closer, start, next, before, after, rfl, starts, content, foundStart,
              foundNext, exempt.1, exempt.2, reported⟩
  · rintro ⟨interface, closer, start, next, before, after, closes, starts, content, foundStart,
      foundNext, inner, wrong, reported⟩
    have measured : blankLines? file closer = some (after.lineDelta before) := by
      simp [blankLines?, starts, content, foundStart, foundNext]
    have checked : ¬ (isLast file closer ||
        decide (after.lineDelta before = Word.signed between)) = true := by simp [inner, wrong]
    rw [check, interface, closes, if_neg Bool.false_ne_true]
    dsimp only
    rw [measured, Option.getD_some, if_neg checked, content, Option.getD_some, Option.mem_toList]
    exact reported

namespace Linter

theorem mem_lint_iff {linter : Linter} : violation ∈ linter.lint file ↔
    ∃ position token rule level, file.tokens[position]? = some token ∧
      (rule, level) ∈ linter.rules ∧ rule.id.kinds.contains token.kind = true ∧
      violation ∈ rule.check file position level := by
  simp only [lint, List.mem_flatMap, Prod.exists, List.mem_zipIdx_iff_getElem?, Rule.checkAt,
    List.mem_ite_nil_right]
  constructor
  · rintro ⟨token, position, found, rule, level, member, kind, reported⟩
    exact ⟨position, token, rule, level, found, member, kind, reported⟩
  · rintro ⟨position, token, rule, level, found, member, kind, reported⟩
    exact ⟨token, position, found, rule, level, member, kind, reported⟩

end Linter

end BlankLines
