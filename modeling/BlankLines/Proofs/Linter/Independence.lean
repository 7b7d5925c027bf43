import BlankLines.Proofs.Linter.Configured
import BlankLines.Proofs.Rule.Report

/-!
Two tables, one rule: what a linter reports of a rule depends on what its table holds for that rule and
on nothing else, and the level of the rule shows in the level of its reports only.
-/
namespace BlankLines

/-- The violation as it would be at another level. -/
def Violation.atLevel (level : Level) (violation : Violation) : Violation :=
  { violation with level }

section Checks

variable {file : TokenFile} {position : Nat} {violation : Violation}

theorem Violation.rule_of_atToken? {rule code message : String} {level : Level} {repair : Changeset}
    (reported : atToken? file position rule code level message repair = some violation) :
    violation.rule = rule := by
  obtain ⟨_, _, rfl⟩ := atToken?_eq_some_iff.mp reported
  rfl

/-- A rule reports under its own name. -/
theorem Rule.rule_of_check {rule : Rule} {level : Level}
    (reported : violation ∈ rule.check file position level) : violation.rule = rule.name := by
  cases rule with
  | braceSpacing after before =>
    obtain ⟨_, _, _, _, _, _, opening | closing⟩ := BraceSpacing.mem_check_iff.mp reported
    · obtain ⟨_, _, _, _, _, _, _, _, report⟩ := BraceSpacing.checkOpening_eq_some_iff.mp opening
      exact Violation.rule_of_atToken? report
    · obtain ⟨_, _, _, _, _, _, _, _, report⟩ := BraceSpacing.checkClosing_eq_some_iff.mp closing
      exact Violation.rule_of_atToken? report
  | methodSpacing between =>
    obtain ⟨_, _, _, _, _, _, _, _, _, _, _, _, _, report⟩ := MethodSpacing.mem_check_iff.mp reported
    exact Violation.rule_of_atToken? report

variable (level level' : Level)

theorem Violation.map_atLevel_atToken? (file : TokenFile) (position : Nat) (rule code : String)
    (message : String) (repair : Changeset) :
    (atToken? file position rule code level message repair).map (atLevel level') =
      atToken? file position rule code level' message repair := by
  rw [atToken?, atToken?, Option.map_map]
  rfl

theorem map_bind_of_forall {α β γ : Type} {first : Option α} {next : α → Option β}
    {next' : α → Option γ} {image : β → γ} (same : ∀ value, (next value).map image = next' value) :
    (first >>= next).map image = first >>= next' := by
  cases first with
  | none => rfl
  | some value => exact same value

theorem BraceSpacing.map_atLevel_checkOpening (wanted : Nat) (declaration : String) (opener : Nat) :
    (checkOpening wanted file declaration opener level).map (Violation.atLevel level') =
      checkOpening wanted file declaration opener level' := by
  refine map_bind_of_forall fun brace => map_bind_of_forall fun next =>
    map_bind_of_forall fun follower => ?_
  dsimp only
  split
  · rfl
  · exact Violation.map_atLevel_atToken? ..

theorem BraceSpacing.map_atLevel_checkClosing (wanted : Nat) (declaration : String) (closer : Nat) :
    (checkClosing wanted file declaration closer level).map (Violation.atLevel level') =
      checkClosing wanted file declaration closer level' := by
  refine map_bind_of_forall fun brace => ?_
  dsimp only
  split
  · rfl
  · refine map_bind_of_forall fun previous => map_bind_of_forall fun leader => ?_
    split
    · rfl
    · exact Violation.map_atLevel_atToken? ..

theorem BraceSpacing.map_atLevel_check (afterOpening beforeClosing : Nat) :
    (check afterOpening beforeClosing file position level).map (Violation.atLevel level') =
      check afterOpening beforeClosing file position level' := by
  rw [check, check]
  split
  · rw [List.map_append, ← Option.toList_map, ← Option.toList_map, map_atLevel_checkOpening,
      map_atLevel_checkClosing]
  · rfl

theorem MethodSpacing.map_atLevel_check (between : Nat) :
    (check between file position level).map (Violation.atLevel level') =
      check between file position level' := by
  rw [check, check]
  split
  · rfl
  · split
    · rfl
    · dsimp only
      split
      · rfl
      · rw [← Option.toList_map, Violation.map_atLevel_atToken?]

/-- The level of a rule changes nothing in its reports but their level. -/
theorem Rule.map_atLevel_checkAt (rule : Rule) (token : Token) :
    (rule.checkAt file position token level).map (Violation.atLevel level') =
      rule.checkAt file position token level' := by
  rw [checkAt, checkAt]
  split
  · cases rule with
    | braceSpacing after before => exact BraceSpacing.map_atLevel_check level level' after before
    | methodSpacing between => exact MethodSpacing.map_atLevel_check level level' between
  · rfl

end Checks

/-- Two tables say the same of a rule, its level left aside. -/
structure Config.AgreeButLevel (table table' : Toml.Table) (id : RuleId) : Prop where
  off : turnsOff table id = turnsOff table' id
  settings : ∀ key, key ≠ levelKey →
    Keyed.get? (settingsOf table id) key = Keyed.get? (settingsOf table' id) key

theorem Config.AgreeButLevel.ruleIn {table table' : Toml.Table} {id : RuleId}
    (agree : AgreeButLevel table table' id) :
    id.ruleIn (settingsOf table id) = id.ruleIn (settingsOf table' id) := by
  refine RuleId.ruleIn_congr fun key listed => ?_
  have counted : key ≠ levelKey := fun same => id.levelKey_notMem (same ▸ listed)
  rw [Settings.count_congr (agree.settings key counted)]

namespace Linter

/-- What a linter reports of one rule, in the order in which it is reported. -/
def findings (linter : Linter) (id : RuleId) (file : TokenFile) : List Violation :=
  (linter.lint file).filter (·.rule = id.name)

variable {keep : RuleId → Bool} {image : RuleId → Rule × Level} {table table' : Toml.Table}
  {root root' : Path} {config config' : Config}

/-- Of what is reported at a token, a rule keeps what it reports itself. -/
theorem filter_rule_checkAt (named : ∀ id, (image id).1.id = id) (file : TokenFile) (position : Nat)
    (token : Token) (id : RuleId) :
    (RuleId.all.flatMap fun other =>
      if keep other then (image other).1.checkAt file position token (image other).2 else []).filter
        (·.rule = id.name) =
      if keep id then (image id).1.checkAt file position token (image id).2 else [] := by
  have own (other : RuleId) : ((if keep other then
      (image other).1.checkAt file position token (image other).2 else []).filter
        (·.rule = id.name)) = if other = id then
          (if keep id then (image id).1.checkAt file position token (image id).2 else []) else [] := by
    have under : ∀ violation ∈ (if keep other then
        (image other).1.checkAt file position token (image other).2 else []),
        violation.rule = other.name := by
      intro violation reported
      rw [List.mem_ite_nil_right, Rule.checkAt, List.mem_ite_nil_right] at reported
      rw [Rule.rule_of_check reported.2.2, Rule.name, named other]
    by_cases same : other = id
    · subst same
      rw [if_pos rfl, List.filter_eq_self]
      exact fun violation reported => decide_eq_true (under violation reported)
    · rw [if_neg same, List.filter_eq_nil_iff]
      intro violation reported
      rw [under violation reported, decide_eq_true_eq]
      exact fun names => same (RuleId.name_injective names)
  rw [List.filter_flatMap]
  simp only [own]
  cases id <;> simp [RuleId.all]

theorem findings_filter_map (named : ∀ id, (image id).1.id = id) (id : RuleId) (file : TokenFile) :
    findings ⟨(RuleId.all.filter keep).map image⟩ id file =
      file.tokens.zipIdx.flatMap fun (token, position) =>
        if keep id then (image id).1.checkAt file position token (image id).2 else [] := by
  rw [findings, lint_filter_map, List.filter_flatMap]
  congr 1
  funext entry
  exact filter_rule_checkAt named file entry.2 entry.1 id

/-- What is reported of a rule depends on what the table holds for that rule alone: other entries add
and take away reports of other rules only, and the level of the rule shows in no other field. -/
theorem findings_independent (distinct : Keyed.Distinct table) (distinct' : Keyed.Distinct table')
    (loads : Config.ofValue root (.table table) = .ok config)
    (loads' : Config.ofValue root' (.table table') = .ok config') (id : RuleId) :
    ∃ linter linter', ofConfig config = .ok linter ∧ ofConfig config' = .ok linter' ∧ ∀ file,
      (Keyed.get? table id.name = Keyed.get? table' id.name →
        linter.findings id file = linter'.findings id file ∧
          ((∀ other, other ≠ id → Config.turnsOff table' other = true) →
            linter'.lint file = linter.findings id file)) ∧
      (Config.AgreeButLevel table table' id → ∃ level, (Config.settingsOf table' id).Names level ∧
        linter'.findings id file = (linter.findings id file).map (Violation.atLevel level)) := by
  refine ⟨_, _, ofConfig_ofValue distinct loads, ofConfig_ofValue distinct' loads', fun file => ?_⟩
  have named (table : Toml.Table) (id : RuleId) := id.id_ruleIn (Config.settingsOf table id)
  rw [findings_filter_map (named table), findings_filter_map (named table')]
  constructor
  · intro same
    have off : Config.turnsOff table id = Config.turnsOff table' id := by
      rw [Config.turnsOff, Config.turnsOff, same]
    have settings : Config.settingsOf table id = Config.settingsOf table' id := by
      rw [Config.settingsOf, Config.settingsOf, same]
    rw [off, settings]
    refine ⟨rfl, fun alone => ?_⟩
    rw [lint_filter_map]
    congr 1
    funext entry
    cases id with
    | braceSpacing => simp [RuleId.all, alone .methodSpacing (by decide)]
    | methodSpacing => simp [RuleId.all, alone .braceSpacing (by decide)]
  · intro agree
    obtain ⟨_, stated, read⟩ := exists_read_ofValue distinct' loads' id
    refine ⟨_, Config.names_of_readLevel read, ?_⟩
    rw [← agree.off, ← agree.ruleIn, List.map_flatMap]
    congr 1
    funext entry
    have level : id.levelIn (Config.settingsOf table' id) = stated.getD .error := by
      rw [RuleId.levelIn, read]
      rfl
    rw [level, apply_ite (List.map _), Rule.map_atLevel_checkAt]
    rfl

def twoRules (brace method : Toml.Value) : Toml.Table :=
  [("Rule001BraceSpacing", brace), ("Rule002MethodSpacing", method)]

/-- A class and a method in it, both without an empty line. -/
def crampedBody : TokenFile where
  tokens := [
    { kind := .classDecl, line := 1, content := "class", scopeOpener := some 1,
      scopeCloser := some 8 },
    { kind := .openBrace, line := 1, content := "\x7b" },
    { kind := .functionDecl, line := 1, content := "function", scopeOpener := some 3,
      scopeCloser := some 4 },
    { kind := .openBrace, line := 1, content := "\x7b" },
    { kind := .closeBrace, line := 1, content := "\x7d" },
    { kind := .whitespace, line := 1, content := "\n" },
    { kind := .other, line := 2, content := "x" },
    { kind := .whitespace, line := 2, content := "\n" },
    { kind := .closeBrace, line := 3, content := "\x7d" }]

/-- With the other rule off its two reports are gone, and at another level the third one has that. -/
theorem findings_independent_crampedBody :
    ∃ full quiet mild, ofConfig {} = .ok full ∧
      ofConfig { rules := [{ id := .braceSpacing, active := false }, { id := .methodSpacing }] } =
        .ok quiet ∧
      ofConfig { rules := [{ id := .braceSpacing },
        { id := .methodSpacing, level := .warning, settings := some [] }] } = .ok mild ∧
      (full.lint crampedBody).length = 3 ∧ (full.findings .methodSpacing crampedBody).length = 1 ∧
      quiet.lint crampedBody = full.findings .methodSpacing crampedBody ∧
      mild.findings .methodSpacing crampedBody =
        (full.findings .methodSpacing crampedBody).map (Violation.atLevel .warning) := by
  have distinct (brace method : Toml.Value) : Keyed.Distinct (twoRules brace method) :=
    (by decide : ["Rule001BraceSpacing", "Rule002MethodSpacing"].Nodup)
  have loads : Config.ofValue ⟨"/"⟩ (.table (twoRules (.boolean true) (.boolean true))) = .ok {} := rfl
  have loadsQuiet : Config.ofValue ⟨"/"⟩ (.table (twoRules (.boolean false) (.boolean true))) =
    .ok { rules := [{ id := .braceSpacing, active := false }, { id := .methodSpacing }] } := rfl
  have loadsMild : Config.ofValue ⟨"/"⟩ (.table (twoRules (.boolean true)
    (.table [(Config.levelKey, .string "warning")]))) = .ok { rules := [{ id := .braceSpacing },
      { id := .methodSpacing, level := .warning, settings := some [] }] } := rfl
  obtain ⟨full, quiet, built, builtQuiet, independent⟩ :=
    findings_independent (distinct _ _) (distinct _ _) loads loadsQuiet .methodSpacing
  obtain ⟨full', mild, built', builtMild, relevelled⟩ :=
    findings_independent (distinct _ _) (distinct _ _) loads loadsMild .methodSpacing
  obtain rfl : full = full' := Except.ok.inj (built.symm.trans built')
  obtain ⟨same, _⟩ := independent crampedBody
  obtain ⟨_, differs⟩ := relevelled crampedBody
  obtain ⟨level, named, levels⟩ := differs ⟨rfl, fun key other => (Keyed.get?_cons.trans (if_neg other.symm)).symm⟩
  obtain rfl : .warning = level := Except.ok.inj named
  have alone : ∀ other : RuleId, other ≠ .methodSpacing →
      Config.turnsOff (twoRules (.boolean false) (.boolean true)) other = true := by
    intro other differs
    cases other with
    | braceSpacing => rfl
    | methodSpacing => exact absurd rfl differs
  obtain rfl : ⟨[(.braceSpacing 1 1, .error), (.methodSpacing 2, .error)]⟩ = full := Except.ok.inj built
  exact ⟨_, quiet, mild, rfl, builtQuiet, builtMild, by decide +kernel, by decide +kernel,
    (same rfl).2 alone, levels⟩

end Linter

end BlankLines
