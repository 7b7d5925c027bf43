import BlankLines.Linter
import BlankLines.Proofs.Config.Reading

/-!
The linter of a table: a table that loads also sets up, and the linter runs the rules that the table
leaves on, with the counts and levels that stand in it.
-/
namespace BlankLines

namespace Config

/-- The settings that a table holds for a rule: none where the entry of the rule is missing or no
table. -/
def settingsOf (table : Toml.Table) (id : RuleId) : Settings :=
  match Keyed.get? table id.name with
  | some (.table settings) => settings
  | _ => []

def turnsOff (table : Toml.Table) (id : RuleId) : Bool :=
  match Keyed.get? table id.name with
  | some (.boolean false) => true
  | _ => false

end Config

namespace RuleId

/-- The rule with the counts that some settings hold. -/
def ruleIn (id : RuleId) (settings : Settings) : Rule :=
  ((Rule.ofId id).setUp (some settings)).1

/-- The level that some settings name, or that of the rule. -/
def levelIn (id : RuleId) (settings : Settings) : Level :=
  ((Config.readLevel id settings).toOption.join).getD id.defaultLevel

end RuleId

/-- The count under a key of some settings, or the one that stands in for it. -/
def Settings.Asks (settings : Settings) (key : String) (default count : Nat) : Prop :=
  ∃ stated, settings.count key = .ok stated ∧ count = stated.getD default

/-- The level that some settings name; errors are reported as such where they name none. -/
def Settings.Names (settings : Settings) (level : Level) : Prop :=
  match Keyed.get? settings Config.levelKey with
  | none => level = .error
  | some (.string text) => Level.parse text = .ok level
  | some _ => False

variable {root : Path} {table : Toml.Table} {settings settings' : Settings} {config : Config}
  {id : RuleId} {key : String}

theorem Settings.count_congr (same : Keyed.get? settings key = Keyed.get? settings' key) :
    settings.count key = settings'.count key := by
  rw [count, count, same]

namespace Rule

theorem readCounts_cons {keys : List String} {stated : Option Nat}
    (counted : settings.count key = .ok stated) (rule : Rule) :
    readCounts settings (key :: keys) rule =
      readCounts settings keys ((stated.map (rule.withCount key)).getD rule) := by
  rw [readCounts, counted]
  cases stated <;> rfl

theorem readCounts_congr {keys : List String}
    (same : ∀ key ∈ keys, (settings.count key).toOption = (settings'.count key).toOption) (rule : Rule) :
    (readCounts settings keys rule).1 = (readCounts settings' keys rule).1 := by
  induction keys generalizing rule with
  | nil => rfl
  | cons key keys ih =>
    obtain ⟨first, rest⟩ := List.forall_mem_cons.mp same
    cases counted : settings.count key with
    | error fault =>
      cases counted' : settings'.count key with
      | error fault' => rw [readCounts, readCounts, counted, counted']
      | ok stated' => exact absurd (counted ▸ counted' ▸ first) nofun
    | ok stated =>
      have counted' := toOption_eq_some_iff.mp (first.symm.trans (toOption_eq_some_iff.mpr counted))
      rw [readCounts_cons counted, readCounts_cons counted']
      exact ih rest _

theorem readCounts_ok {keys : List String}
    (counts : ∀ key ∈ keys, ∃ count, settings.count key = .ok count) (rule : Rule) :
    (readCounts settings keys rule).2 = .ok () := by
  induction keys generalizing rule with
  | nil => rfl
  | cons key keys ih =>
    obtain ⟨⟨stated, counted⟩, rest⟩ := List.forall_mem_cons.mp counts
    rw [readCounts_cons counted]
    exact ih rest _

/-- Reading that ends without a fault has met no faulty count. -/
theorem exists_count_of_readCounts {keys : List String} {rule : Rule}
    (read : (readCounts settings keys rule).2 = .ok ()) :
    ∀ key ∈ keys, ∃ stated, settings.count key = .ok stated := by
  induction keys generalizing rule with
  | nil => exact fun key member => absurd member List.not_mem_nil
  | cons key keys ih =>
    cases counted : settings.count key with
    | error fault =>
      rw [readCounts, counted] at read
      cases read
    | ok stated =>
      rw [readCounts_cons counted] at read
      exact List.forall_mem_cons.mpr ⟨⟨stated, counted⟩, ih read⟩

theorem readCounts_braceSpacing {after before : Option Nat}
    (first : settings.count RuleId.afterOpeningKey = .ok after)
    (second : settings.count RuleId.beforeClosingKey = .ok before) (a b : Nat) :
    (readCounts settings RuleId.braceSpacing.countKeys (.braceSpacing a b)).1 =
      .braceSpacing (after.getD a) (before.getD b) := by
  rw [RuleId.countKeys, readCounts_cons first, readCounts_cons second]
  cases after <;> cases before <;> rfl

theorem readCounts_methodSpacing {between : Option Nat}
    (first : settings.count RuleId.betweenMethodsKey = .ok between) (a : Nat) :
    (readCounts settings RuleId.methodSpacing.countKeys (.methodSpacing a)).1 =
      .methodSpacing (between.getD a) := by
  rw [RuleId.countKeys, readCounts_cons first]
  cases between <;> rfl

theorem id_ofId (id : RuleId) : (ofId id).id = id := by
  cases id <;> rfl

theorem id_withCount (rule : Rule) (key : String) (count : Nat) : (rule.withCount key count).id = rule.id := by
  cases rule with
  | braceSpacing after before =>
    rw [withCount]
    split
    · rfl
    · split <;> rfl
  | methodSpacing between =>
    rw [withCount]
    split <;> rfl

theorem id_readCounts (settings : Settings) (keys : List String) (rule : Rule) :
    (readCounts settings keys rule).1.id = rule.id := by
  induction keys generalizing rule with
  | nil => rfl
  | cons key keys ih =>
    cases counted : settings.count key with
    | error fault => rw [readCounts, counted]
    | ok stated =>
      rw [readCounts_cons counted, ih]
      cases stated with
      | none => rfl
      | some count => exact rule.id_withCount key count

end Rule

theorem RuleId.id_ruleIn (id : RuleId) (settings : Settings) : (id.ruleIn settings).id = id :=
  (Rule.id_readCounts settings _ _).trans (Rule.id_ofId id)

theorem RuleId.ruleIn_braceSpacing {after before : Option Nat}
    (first : settings.count afterOpeningKey = .ok after)
    (second : settings.count beforeClosingKey = .ok before) :
    braceSpacing.ruleIn settings = .braceSpacing (after.getD 1) (before.getD 1) :=
  Rule.readCounts_braceSpacing first second 1 1

theorem RuleId.ruleIn_methodSpacing {between : Option Nat}
    (first : settings.count betweenMethodsKey = .ok between) :
    methodSpacing.ruleIn settings = .methodSpacing (between.getD 2) :=
  Rule.readCounts_methodSpacing first 2

theorem RuleId.levelKey_notMem (id : RuleId) : Config.levelKey ∉ id.countKeys := by
  cases id <;> decide

theorem RuleId.dateTimeKey_notMem (id : RuleId) : Toml.dateTimeKey ∉ id.countKeys := by
  cases id <;> decide

theorem RuleId.ruleIn_congr
    (same : ∀ key ∈ id.countKeys, (settings.count key).toOption = (settings'.count key).toOption) :
    id.ruleIn settings = id.ruleIn settings' := by
  refine Rule.readCounts_congr ?_ (Rule.ofId id)
  cases id <;> exact same

theorem Config.names_of_readLevel {stated : Option Level}
    (read : readLevel id settings = .ok stated) : settings.Names (stated.getD .error) := by
  rw [readLevel] at read
  split at read
  · next missing =>
    cases read
    rw [Settings.Names, missing]
    rfl
  · next text named =>
    rw [Settings.Names, named]
    split at read
    · next level parsed =>
      cases read
      exact parsed
    · cases read
  · cases read

namespace Toml.Value

theorem plainEntries_eq (entries : List (String × Value)) :
    plainEntries entries = entries.map fun (key, value) => (key, value.plain) := by
  induction entries with
  | nil => rfl
  | cons pair entries ih =>
    rw [plainEntries, ih]
    rfl

theorem get?_plainEntries (table : Toml.Table) (name : String) :
    Keyed.get? (plainEntries table) name = (Keyed.get? table name).map plain := by
  rw [plainEntries_eq, Keyed.get?, Keyed.get?, List.find?_map, Option.map_map, Option.map_map]
  rfl

theorem distinct_plainEntries (distinct : Keyed.Distinct table) :
    Keyed.Distinct (plainEntries table) := by
  rw [Keyed.Distinct, plainEntries_eq, List.map_map]
  exact distinct

end Toml.Value

open Toml.Value

theorem Settings.count_plainEntries (settings : Settings) (key : String) :
    (Settings.count (plainEntries settings) key).toOption = (settings.count key).toOption := by
  rw [count, count, get?_plainEntries]
  cases Keyed.get? settings key with
  | none => rfl
  | some value => cases value <;> rfl

theorem Config.readLevel_plainEntries (settings : Settings) :
    (readLevel id (plainEntries settings)).toOption = (readLevel id settings).toOption := by
  rw [readLevel, readLevel, get?_plainEntries]
  cases Keyed.get? settings levelKey with
  | none => rfl
  | some value => cases value <;> rfl

namespace Config

/-! A table says the same of a rule whether date-times stand in it as they are or as tables. -/

theorem turnsOff_plainEntries (table : Toml.Table) (id : RuleId) :
    turnsOff (plainEntries table) id = turnsOff table id := by
  rw [turnsOff, turnsOff, get?_plainEntries]
  cases Keyed.get? table id.name with
  | none => rfl
  | some value =>
    cases value with
    | boolean on => cases on <;> rfl
    | _ => rfl

theorem count_settingsOf_plainEntries (table : Toml.Table) (listed : key ∈ id.countKeys) :
    ((settingsOf (plainEntries table) id).count key).toOption =
      ((settingsOf table id).count key).toOption := by
  rw [settingsOf, settingsOf, get?_plainEntries]
  cases Keyed.get? table id.name with
  | none => rfl
  | some value =>
    cases value with
    | table entries => exact Settings.count_plainEntries entries key
    | dateTime text =>
      have counted : Toml.dateTimeKey ≠ key := fun same => id.dateTimeKey_notMem (same ▸ listed)
      refine congrArg Except.toOption (Settings.count_congr ?_)
      exact Keyed.get?_cons.trans (if_neg counted)
    | _ => rfl

theorem readLevel_settingsOf_plainEntries (table : Toml.Table) (id : RuleId) :
    (readLevel id (settingsOf (plainEntries table) id)).toOption =
      (readLevel id (settingsOf table id)).toOption := by
  rw [settingsOf, settingsOf, get?_plainEntries]
  cases Keyed.get? table id.name with
  | none => rfl
  | some value =>
    cases value with
    | table entries => exact readLevel_plainEntries entries
    | _ => rfl

end Config

theorem map_filter_eq_of_forall₂ {α β γ : Type} {related : α → β → Prop} {keep : α → Bool}
    {keep' : β → Bool} {f : α → γ} {g : β → γ} {as : List α} {bs : List β}
    (same : ∀ a b, related a b → keep' b = keep a ∧ g b = f a) (pairs : as.Forall₂ related bs) :
    (bs.filter keep').map g = (as.filter keep).map f := by
  induction pairs with
  | nil => rfl
  | cons here _ ih =>
    obtain ⟨kept, image⟩ := same _ _ here
    rw [List.filter_cons, List.filter_cons, kept]
    split
    · rw [List.map_cons, List.map_cons, image, ih]
    · exact ih

theorem RuleEntry.Checked.setUp_ok {entry : RuleEntry} (checked : entry.Checked) :
    ((Rule.ofId entry.id).setUp entry.settings).2 = .ok () := by
  cases held : entry.settings with
  | none => rfl
  | some settings =>
    rw [Rule.setUp, Rule.id_ofId]
    exact Rule.readCounts_ok (checked settings held) _

/-- A configuration that has been checked sets up. -/
theorem Linter.ofConfig_of_checked (checked : ∀ entry ∈ config.rules, entry.Checked) :
    ofConfig config = .ok ⟨(config.rules.filter (·.active)).map fun entry =>
      (((Rule.ofId entry.id).setUp entry.settings).1, entry.level)⟩ := by
  have each : ∀ entry ∈ config.rules.filter (·.active), setUpRule entry =
      .ok (((Rule.ofId entry.id).setUp entry.settings).1, entry.level) := by
    intro entry member
    have set := (checked entry (List.mem_of_mem_filter member)).setUp_ok
    rw [setUpRule]
    generalize (Rule.ofId entry.id).setUp entry.settings = result at set
    obtain ⟨rule, _⟩ := result
    obtain rfl := set
    rfl
  rw [ofConfig, mapM_eq_ok_of_forall each]
  rfl

/-- What a rule has taken over from a table is what the table says of it. -/
theorem RuleEntry.Takes.setUp_eq {entry : RuleEntry}
    (takes : ({ id } : RuleEntry).Takes (Keyed.get? table id.name) entry) :
    entry.active = !Config.turnsOff table id ∧
      (((Rule.ofId entry.id).setUp entry.settings).1, entry.level) =
        (id.ruleIn (Config.settingsOf table id), id.levelIn (Config.settingsOf table id)) := by
  rw [Config.turnsOff, Config.settingsOf]
  generalize Keyed.get? table id.name = value at takes
  cases takes with
  | absent => cases id <;> exact ⟨rfl, rfl⟩
  | on => cases id <;> exact ⟨rfl, rfl⟩
  | off => cases id <;> exact ⟨rfl, rfl⟩
  | @table settings stated level known counts =>
    refine ⟨rfl, Prod.ext ?_ ?_⟩
    · refine RuleId.ruleIn_congr fun key listed => ?_
      have counted : key ≠ Config.levelKey := fun same => id.levelKey_notMem (same ▸ listed)
      rw [Settings.count_congr (Keyed.get?_without counted)]
    · have read : Config.readLevel id settings = .ok stated := level
      dsimp only
      rw [RuleId.levelIn, read]
      rfl

/-- What a rule has taken over was read without fault. -/
theorem RuleEntry.Takes.exists_read {entry : RuleEntry}
    (takes : ({ id } : RuleEntry).Takes (Keyed.get? table id.name) entry) :
    (∀ key ∈ id.countKeys, ∃ stated, (Config.settingsOf table id).count key = .ok stated) ∧
      ∃ stated, Config.readLevel id (Config.settingsOf table id) = .ok stated := by
  rw [Config.settingsOf]
  generalize Keyed.get? table id.name = value at takes
  cases takes with
  | absent => exact ⟨fun key _ => ⟨none, rfl⟩, none, rfl⟩
  | on => exact ⟨fun key _ => ⟨none, rfl⟩, none, rfl⟩
  | off => exact ⟨fun key _ => ⟨none, rfl⟩, none, rfl⟩
  | @table settings stated level known counts =>
    refine ⟨fun key listed => ?_, stated, level⟩
    have counted : key ≠ Config.levelKey := fun same => id.levelKey_notMem (same ▸ listed)
    obtain ⟨count, counts⟩ := counts key listed
    exact ⟨count, (Settings.count_congr (Keyed.get?_without counted)).symm.trans counts⟩

namespace Linter

/-- A table that loads sets up, and its linter holds the rules that the table leaves on. -/
theorem ofConfig_ofValue (distinct : Keyed.Distinct table)
    (loads : Config.ofValue root (.table table) = .ok config) :
    ofConfig config = .ok ⟨(RuleId.all.filter fun id => !Config.turnsOff table id).map fun id =>
      (id.ruleIn (Config.settingsOf table id), id.levelIn (Config.settingsOf table id))⟩ := by
  have plain : Config.ofTable root (plainEntries table) = .ok config := loads
  rw [ofConfig_of_checked (Config.checked_ofTable plain)]
  refine congrArg (fun rules => Except.ok (Linter.mk rules)) (map_filter_eq_of_forall₂
    (fun id entry takes => ?_) (Config.rules_ofTable (distinct_plainEntries distinct) plain))
  have rule : id.ruleIn (Config.settingsOf (plainEntries table) id) =
      id.ruleIn (Config.settingsOf table id) :=
    RuleId.ruleIn_congr fun key listed => Config.count_settingsOf_plainEntries table listed
  have level : id.levelIn (Config.settingsOf (plainEntries table) id) =
      id.levelIn (Config.settingsOf table id) := by
    rw [RuleId.levelIn, RuleId.levelIn, Config.readLevel_settingsOf_plainEntries]
  rw [← Config.turnsOff_plainEntries, ← rule, ← level]
  exact takes.setUp_eq

/-- The counts and the level that a table that loads holds for a rule are fit to be read. -/
theorem exists_read_ofValue (distinct : Keyed.Distinct table)
    (loads : Config.ofValue root (.table table) = .ok config) (id : RuleId) :
    (∀ key ∈ id.countKeys, ∃ stated, (Config.settingsOf table id).count key = .ok stated) ∧
      ∃ stated, Config.readLevel id (Config.settingsOf table id) = .ok stated := by
  have plain : Config.ofTable root (plainEntries table) = .ok config := loads
  obtain ⟨entry, takes⟩ : ∃ entry, ({ id } : RuleEntry).Takes
      (Keyed.get? (plainEntries table) id.name) entry := by
    obtain ⟨brace, rest, first, others, _⟩ := List.forall₂_cons_left_iff.mp
      (Config.rules_ofTable (distinct_plainEntries distinct) plain)
    obtain ⟨method, _, second, _⟩ := List.forall₂_cons_left_iff.mp others
    cases id with
    | braceSpacing => exact ⟨brace, first⟩
    | methodSpacing => exact ⟨method, second⟩
  obtain ⟨counts, level⟩ := takes.exists_read
  refine ⟨fun key listed => ?_, ?_⟩
  · obtain ⟨stated, counted⟩ := counts key listed
    rw [← toOption_eq_some_iff, Config.count_settingsOf_plainEntries table listed] at counted
    exact ⟨stated, toOption_eq_some_iff.mp counted⟩
  · obtain ⟨stated, read⟩ := level
    rw [← toOption_eq_some_iff, Config.readLevel_settingsOf_plainEntries] at read
    exact ⟨stated, toOption_eq_some_iff.mp read⟩

theorem flatMap_filter_map {α β γ : Type} (keep : α → Bool) (image : α → β) (f : β → List γ)
    (items : List α) : ((items.filter keep).map image).flatMap f =
      items.flatMap fun item => if keep item then f (image item) else [] := by
  induction items with
  | nil => rfl
  | cons item items ih =>
    rw [List.filter_cons, List.flatMap_cons, ← ih]
    split <;> rfl

theorem lint_filter_map (keep : RuleId → Bool) (image : RuleId → Rule × Level) (file : TokenFile) :
    lint ⟨(RuleId.all.filter keep).map image⟩ file =
      file.tokens.zipIdx.flatMap fun (token, position) => RuleId.all.flatMap fun id =>
        if keep id then (image id).1.checkAt file position token (image id).2 else [] := by
  rw [lint]
  congr 1
  funext entry
  exact flatMap_filter_map _ _ _ _

/-- A table that loads is the table that runs: its linter reports, by position and then by rule, what
the rules that are left on report with the counts and at the levels that stand in the table. -/
theorem lint_ofValue (distinct : Keyed.Distinct table)
    (loads : Config.ofValue root (.table table) = .ok config) :
    ∃ linter after before between braceLevel methodLevel,
      ofConfig config = .ok linter ∧
      (Config.settingsOf table .braceSpacing).Asks RuleId.afterOpeningKey 1 after ∧
      (Config.settingsOf table .braceSpacing).Asks RuleId.beforeClosingKey 1 before ∧
      (Config.settingsOf table .methodSpacing).Asks RuleId.betweenMethodsKey 2 between ∧
      (Config.settingsOf table .braceSpacing).Names braceLevel ∧
      (Config.settingsOf table .methodSpacing).Names methodLevel ∧
      ∀ file, linter.lint file = file.tokens.zipIdx.flatMap fun (token, position) =>
        [(Rule.braceSpacing after before, braceLevel),
          (Rule.methodSpacing between, methodLevel)].flatMap fun (rule, level) =>
            if !Config.turnsOff table rule.id && rule.id.kinds.contains token.kind then
              rule.check file position level
            else [] := by
  obtain ⟨braceCounts, braceLevel, braceNamed⟩ := exists_read_ofValue distinct loads .braceSpacing
  obtain ⟨methodCounts, methodLevel, methodNamed⟩ := exists_read_ofValue distinct loads .methodSpacing
  obtain ⟨after, afterAsked⟩ := braceCounts RuleId.afterOpeningKey (by decide)
  obtain ⟨before, beforeAsked⟩ := braceCounts RuleId.beforeClosingKey (by decide)
  obtain ⟨between, betweenAsked⟩ := methodCounts RuleId.betweenMethodsKey (by decide)
  refine ⟨_, after.getD 1, before.getD 1, between.getD 2, braceLevel.getD .error,
    methodLevel.getD .error, ofConfig_ofValue distinct loads, ⟨after, afterAsked, rfl⟩,
    ⟨before, beforeAsked, rfl⟩, ⟨between, betweenAsked, rfl⟩, Config.names_of_readLevel braceNamed,
    Config.names_of_readLevel methodNamed, fun file => ?_⟩
  rw [lint_filter_map]
  congr 1
  funext entry
  simp only [RuleId.all, List.flatMap_cons, List.flatMap_nil, Rule.checkAt, Rule.id,
    RuleId.ruleIn_braceSpacing afterAsked beforeAsked, RuleId.ruleIn_methodSpacing betweenAsked,
    RuleId.levelIn, braceNamed, methodNamed, Bool.and_eq_true, ← ite_and]
  rfl

/-- Counts in digits, a level in letters of any case, a rule that is off, and a key that names none. -/
def mixedTable : Toml.Table :=
  [("Rule001BraceSpacing", .table [(RuleId.beforeClosingKey, .string " +02 "),
      (Config.levelKey, .string "Warning")]),
    ("Rule002MethodSpacing", .boolean false), ("since", .dateTime "1979-05-27")]

def mixedConfig : Config where
  rules := [
    { id := .braceSpacing, level := .warning,
      settings := some [(RuleId.beforeClosingKey, .string " +02 ")] },
    { id := .methodSpacing, active := false }]

theorem lint_ofValue_mixedTable :
    Keyed.Distinct mixedTable ∧ Config.ofValue ⟨"/"⟩ (.table mixedTable) = .ok mixedConfig ∧
      ∃ linter, ofConfig mixedConfig = .ok linter ∧ ∀ file, linter.lint file =
        file.tokens.zipIdx.flatMap fun (token, position) =>
          if RuleId.braceSpacing.kinds.contains token.kind then
            (Rule.braceSpacing 1 2).check file position .warning
          else [] := by
  have distinct : Keyed.Distinct mixedTable := by decide
  have loads : Config.ofValue ⟨"/"⟩ (.table mixedTable) = .ok mixedConfig := by rfl
  obtain ⟨linter, _, _, between, level, _, built, ⟨_, ⟨⟩, rfl⟩, ⟨_, ⟨⟩, rfl⟩, _, named, _, lints⟩ :=
    lint_ofValue distinct loads
  obtain rfl : .warning = level := Except.ok.inj named
  refine ⟨distinct, loads, linter, built, fun file => (lints file).trans ?_⟩
  congr 1
  funext entry
  exact List.append_nil _

end Linter

end BlankLines
