import BlankLines.Proofs.Config.Tables
import BlankLines.Proofs.Linter.Configured
import BlankLines.Proofs.Text.Bytes

/-!
Which tables are configurations: those whose ignore list names patterns and whose rules are switched on or
off or hold a level and counts. Of any other table the fault is told that its first faulty key has.
-/
namespace BlankLines

theorem Level.parse_cases (text : String) :
    (∃ level, Level.parse text = .ok level ∧
      (Text.lowerCase text = "error" ∨ Text.lowerCase text = "warning")) ∨
    Level.parse text = .error (Text.lowerCase text) ∧
      Text.lowerCase text ≠ "error" ∧ Text.lowerCase text ≠ "warning" := by
  rw [Level.parse]
  split
  · next error => exact .inl ⟨.error, rfl, .inl error⟩
  · next noError =>
    split
    · next warning => exact .inl ⟨.warning, rfl, .inr warning⟩
    · next noWarning => exact .inr ⟨rfl, noError, noWarning⟩

namespace Config

/-- An item of the ignore list: a text that is a pattern below the directory. -/
def NamesPattern (root : Path) (item : Toml.Value) : Prop :=
  ∃ text, item = .string text ∧ (Glob.Pattern.parse? (root.join ⟨text⟩).text).isSome

def ListsPatterns (root : Path) (value : Toml.Value) : Prop :=
  ∃ items, value = .array items ∧ ∀ item ∈ items, NamesPattern root item

def NamesLevel (value : Toml.Value) : Prop :=
  ∃ text, value = .string text ∧ (Text.lowerCase text = "error" ∨ Text.lowerCase text = "warning")

def LevelFits (settings : Settings) : Prop :=
  ∀ value, Keyed.get? settings levelKey = some value → NamesLevel value

end Config

namespace RuleId

/-- The settings that a rule has: its level and its counts. -/
def HasSetting (id : RuleId) (key : String) : Prop :=
  key = Config.levelKey ∨ key ∈ id.countKeys

instance (id : RuleId) (key : String) : Decidable (id.HasSetting key) :=
  inferInstanceAs (Decidable (_ ∨ _))

structure Documents (id : RuleId) (settings : Settings) : Prop where
  level : Config.LevelFits settings
  known : ∀ entry ∈ settings, id.HasSetting entry.1
  counts : ∀ key ∈ id.countKeys, ∃ count, settings.count key = .ok count

/-- A rule is switched on or off, or given a table of its settings. -/
inductive Admits (id : RuleId) : Toml.Value → Prop
  | switch (on : Bool) : id.Admits (.boolean on)
  | table {settings : Settings} (documents : id.Documents settings) : id.Admits (.table settings)

end RuleId

namespace Config

/-- What stands under a key is what may stand there; anything may under a key that is no one's. -/
structure Fits (root : Path) (key : String) (value : Toml.Value) : Prop where
  ignored : key = ignoreKey → ListsPatterns root value
  rule : ∀ id : RuleId, key = id.name → id.Admits value

def Documented (root : Path) (table : Toml.Table) : Prop :=
  ∀ entry ∈ table, Fits root entry.1 entry.2

inductive ItemFault (root : Path) : Toml.Value → ConfigError → Prop
  | notText {item : Toml.Value} (other : ∀ text, item ≠ .string text) :
    ItemFault root item (.ignoredNotText item)
  | badPattern {text : String} (refused : Glob.Pattern.parse? (root.join ⟨text⟩).text = none) :
    ItemFault root (.string text) (.badPattern (root.join ⟨text⟩))

inductive ListFault (root : Path) : Toml.Value → ConfigError → Prop
  | notList {value : Toml.Value} (other : ∀ items, value ≠ .array items) :
    ListFault root value (.ignoredNotList value)
  | item {items : List Toml.Value} {error : ConfigError}
      (first : FirstFault (NamesPattern root) (ItemFault root) items error) :
    ListFault root (.array items) error

inductive LevelFault (id : RuleId) : Toml.Value → ConfigError → Prop
  | notText {value : Toml.Value} (other : ∀ text, value ≠ .string text) :
    LevelFault id value (.levelNotText id value)
  | unknown {text : String} (noError : Text.lowerCase text ≠ "error")
      (noWarning : Text.lowerCase text ≠ "warning") :
    LevelFault id (.string text) (.badLevel id (Text.lowerCase text))

def CountFault (id : RuleId) (settings : Settings) (key : String) (error : ConfigError) : Prop :=
  ∃ fault, settings.count key = .error fault ∧ error = .badSetting id fault

/-- A key is no setting, and those before it by their bytes all are. -/
def UnknownFault (id : RuleId) (settings : Settings) (error : ConfigError) : Prop :=
  ∃ entry ∈ settings, ¬ id.HasSetting entry.1 ∧
    (∀ other ∈ settings, Text.bytes other.1 < Text.bytes entry.1 → id.HasSetting other.1) ∧
    error = .unknownSetting id entry.1

/-- The fault of the level comes before that of an unknown key, and this before that of a count. -/
inductive SettingsFault (id : RuleId) (settings : Settings) (error : ConfigError) : Prop
  | level {value : Toml.Value} (stated : Keyed.get? settings levelKey = some value)
      (fault : LevelFault id value error)
  | unknown (level : LevelFits settings) (fault : UnknownFault id settings error)
  | count (level : LevelFits settings) (known : ∀ entry ∈ settings, id.HasSetting entry.1)
      (first : FirstFault (fun key => ∃ count, settings.count key = .ok count) (CountFault id settings)
        id.countKeys error)

inductive RuleFault (id : RuleId) : Toml.Value → ConfigError → Prop
  | notTable {value : Toml.Value} (noSwitch : ∀ on, value ≠ .boolean on)
      (noTable : ∀ settings, value ≠ .table settings) :
    RuleFault id value (.ruleNotTable id value)
  | settings {settings : Settings} {error : ConfigError} (fault : SettingsFault id settings error) :
    RuleFault id (.table settings) error

/-- The fault of an entry of a table. -/
inductive EntryFault (root : Path) (key : String) (value : Toml.Value) (error : ConfigError) : Prop
  | ignored (named : key = ignoreKey) (fault : ListFault root value error)
  | rule (id : RuleId) (named : key = id.name) (fault : RuleFault id value error)

variable {root : Path} {config : Config} {key : String} {value item : Toml.Value}
  {table : Toml.Table} {id : RuleId} {settings : Settings} {error : ConfigError}

theorem ignorePattern_settles (root : Path) (item : Toml.Value) :
    Settles (ignorePattern root item) (NamesPattern root item) (ItemFault root item) := by
  cases item with
  | string text =>
    cases parsed : Glob.Pattern.parse? (root.join ⟨text⟩).text with
    | some pattern =>
      have succeeds : ignorePattern root (.string text) = .ok pattern := by
        simp only [ignorePattern, parsed]
      refine .of_ok succeeds ⟨text, rfl, parsed ▸ rfl⟩ fun error faulty => ?_
      cases faulty with
      | notText other => exact other text rfl
      | badPattern refused => exact absurd (parsed.symm.trans refused) nofun
    | none =>
      have fails : ignorePattern root (.string text) = .error (.badPattern (root.join ⟨text⟩)) := by
        simp only [ignorePattern, parsed]
      refine .of_error fails ?_ (.badPattern parsed) fun error faulty => ?_
      · rintro ⟨_, ⟨⟩, accepted⟩
        exact absurd (parsed ▸ accepted) nofun
      · cases faulty with
        | notText other => exact absurd rfl (other text)
        | badPattern => rfl
  | _ =>
    refine .of_error rfl (fun ⟨_, same, _⟩ => nomatch same) (.notText nofun) fun error faulty => ?_
    cases faulty
    rfl

theorem addEntry_ignored_settles (root : Path) (config : Config) (value : Toml.Value) :
    Settles (addEntry root config ignoreKey value) (ListsPatterns root value) (ListFault root value) := by
  unfold addEntry
  rw [if_pos rfl]
  cases value with
  | array items =>
    have patterns : Settles (items.mapM (ignorePattern root)) (∀ item ∈ items, NamesPattern root item)
        (FirstFault (NamesPattern root) (ItemFault root) items) :=
      .mapM fun item _ => ignorePattern_settles root item
    refine (patterns.bind_ok fun _ => ⟨_, rfl⟩).congr
      ⟨fun each => ⟨items, rfl, each⟩, ?_⟩ fun error => ⟨.item, fun faulty => ?_⟩
    · rintro ⟨_, ⟨⟩, each⟩
      exact each
    · cases faulty with
      | notList other => exact absurd rfl (other items)
      | item first => exact first
  | _ =>
    refine .of_error rfl (fun ⟨_, same, _⟩ => nomatch same) (.notList nofun) fun error faulty => ?_
    cases faulty
    rfl

theorem readLevel_settles (id : RuleId) (settings : Settings) :
    Settles (readLevel id settings) (LevelFits settings) fun error =>
      ∃ value, Keyed.get? settings levelKey = some value ∧ LevelFault id value error := by
  rw [readLevel]
  cases stated : Keyed.get? settings levelKey with
  | none =>
    refine .of_ok rfl (fun value found => ?_) ?_
    · rw [stated] at found
      cases found
    · rintro error ⟨_, ⟨⟩, _⟩
  | some value =>
    cases value with
    | string text =>
      dsimp only
      rcases Level.parse_cases text with ⟨level, parsed, named⟩ | ⟨parsed, noError, noWarning⟩
      · rw [parsed]
        refine .of_ok rfl (fun value found => ?_) ?_
        · obtain rfl := Option.some.inj (stated.symm.trans found)
          exact ⟨text, rfl, named⟩
        · rintro error ⟨_, ⟨⟩, faulty⟩
          cases faulty with
          | notText other => exact other text rfl
          | unknown noError noWarning => exact named.elim noError noWarning
      · rw [parsed]
        refine .of_error rfl (fun fits => ?_) ⟨_, rfl, .unknown noError noWarning⟩ ?_
        · obtain ⟨_, ⟨⟩, named⟩ := fits _ stated
          exact named.elim noError noWarning
        · rintro error ⟨_, ⟨⟩, faulty⟩
          cases faulty with
          | notText other => exact absurd rfl (other text)
          | unknown => rfl
    | _ =>
      refine .of_error rfl (fun fits => ?_) ⟨_, rfl, .notText fun text => ?_⟩ ?_
      · obtain ⟨_, ⟨⟩, _⟩ := fits _ stated
      · rintro ⟨⟩
      · rintro error ⟨_, ⟨⟩, faulty⟩
        cases faulty
        rfl

theorem checkCounts_settles (id : RuleId) (settings : Settings) (keys : List String) :
    Settles (checkCounts id settings keys)
      (∀ key ∈ keys, ∃ count, settings.count key = .ok count)
      (FirstFault (fun key => ∃ count, settings.count key = .ok count) (CountFault id settings) keys) := by
  induction keys with
  | nil =>
    refine .of_ok rfl (fun _ member => absurd member List.not_mem_nil) fun error first => ?_
    cases first
  | cons key keys ih =>
    rw [checkCounts]
    cases counted : settings.count key with
    | ok count =>
      refine ih.congr ?_ fun error => ?_
      · rw [List.forall_mem_cons]
        exact ⟨fun rest => ⟨⟨count, counted⟩, rest⟩, And.right⟩
      · rw [firstFault_cons_iff]
        refine ⟨fun rest => .inr ⟨⟨count, counted⟩, rest⟩, ?_⟩
        rintro (⟨fault, fails, -⟩ | ⟨-, rest⟩)
        · rw [counted] at fails
          cases fails
        · exact rest
    | error fault =>
      have uncounted : ¬ ∃ count, settings.count key = .ok count := by
        rintro ⟨count, succeeds⟩
        rw [counted] at succeeds
        cases succeeds
      refine .of_error rfl (fun each => uncounted (each key List.mem_cons_self))
        (.here ⟨fault, counted, rfl⟩) fun error first => ?_
      obtain ⟨_, fails, rfl⟩ := (firstFault_cons_iff.mp first).resolve_right fun later => uncounted later.1
      rw [Except.error.inj (counted.symm.trans fails)]

theorem checkCounts_congr {settings' : Settings} {keys : List String}
    (same : ∀ key ∈ keys, settings.count key = settings'.count key) :
    checkCounts id settings keys = checkCounts id settings' keys := by
  induction keys with
  | nil => rfl
  | cons key keys ih =>
    obtain ⟨first, rest⟩ := List.forall_mem_cons.mp same
    rw [checkCounts, checkCounts, first, ih rest]

theorem UnknownFault.unique {error' : ConfigError} (fault : UnknownFault id settings error)
    (fault' : UnknownFault id settings error') : error = error' := by
  obtain ⟨entry, member, unknown, first, rfl⟩ := fault
  obtain ⟨entry', member', unknown', first', rfl⟩ := fault'
  have notBefore : ¬ entry.1 < entry'.1 := fun less =>
    unknown (first' entry member (Text.bytes_lt less))
  have notAfter : ¬ entry'.1 < entry.1 := fun less =>
    unknown' (first entry' member' (Text.bytes_lt less))
  rw [le_antisymm (not_lt.mp notAfter) (not_lt.mp notBefore)]

/-- The search for an unknown key ends without one where there is none, else at the first. -/
theorem find_unknown_cases (id : RuleId) (ascending : settings.Pairwise fun a b => a.1 < b.1) :
    ((Keyed.without settings levelKey).find? (fun (key, _) => !id.countKeys.contains key) = none ∧
      ∀ entry ∈ settings, id.HasSetting entry.1) ∨
    ∃ entry, (Keyed.without settings levelKey).find? (fun (key, _) => !id.countKeys.contains key) =
      some entry ∧ UnknownFault id settings (.unknownSetting id entry.1) := by
  have other {entry : String × Toml.Value} (member : entry ∈ settings)
      (known : entry ∈ Keyed.without settings levelKey → entry.1 ∈ id.countKeys) :
      id.HasSetting entry.1 := by
    by_cases level : entry.1 = levelKey
    · exact .inl level
    · exact .inr (known (List.mem_filter.mpr ⟨member, decide_eq_true level⟩))
  cases search : (Keyed.without settings levelKey).find? fun (key, _) => !id.countKeys.contains key with
  | none =>
    refine .inl ⟨rfl, fun entry member => other member fun kept => ?_⟩
    simpa using List.find?_eq_none.mp search entry kept
  | some entry =>
    obtain ⟨uncounted, before, after, split, counted⟩ := List.find?_eq_some_iff_append.mp search
    have kept : entry ∈ Keyed.without settings levelKey := List.mem_of_find?_eq_some search
    obtain ⟨member, noLevel⟩ := List.mem_filter.mp kept
    refine .inr ⟨entry, rfl, entry, member, ?_, fun earlier member less => other member fun kept => ?_, rfl⟩
    · rintro (level | listed)
      · exact of_decide_eq_true noLevel level
      · simp [listed] at uncounted
    · have less := Text.bytes_lt_iff.mp less
      have ascending : (Keyed.without settings levelKey).Pairwise fun a b => a.1 < b.1 :=
        ascending.sublist List.filter_sublist
      rw [split, List.pairwise_append] at ascending
      rw [split] at kept
      rcases List.mem_append.mp kept with first | later
      · simpa using counted earlier first
      · rcases List.mem_cons.mp later with rfl | later
        · exact absurd less (lt_irrefl _)
        · exact absurd less (lt_asymm (List.rel_of_pairwise_cons ascending.2.1 later))

/-- What is read of a table after the level: its keys, and then its counts. -/
theorem readSettings_settles (level : Option Level) (ascending : settings.Pairwise fun a b => a.1 < b.1) :
    Settles
      (match (Keyed.without settings levelKey).find? fun (key, _) => !id.countKeys.contains key with
        | some (key, _) => throw (.unknownSetting id key)
        | none => do
          checkCounts id (Keyed.without settings levelKey) id.countKeys
          return (level, Keyed.without settings levelKey))
      ((∀ entry ∈ settings, id.HasSetting entry.1) ∧
        ∀ key ∈ id.countKeys, ∃ count, settings.count key = .ok count)
      fun error => UnknownFault id settings error ∨ (∀ entry ∈ settings, id.HasSetting entry.1) ∧
        FirstFault (fun key => ∃ count, settings.count key = .ok count) (CountFault id settings)
          id.countKeys error := by
  have counts : checkCounts id (Keyed.without settings levelKey) id.countKeys =
      checkCounts id settings id.countKeys := by
    refine checkCounts_congr fun key listed => Settings.count_congr (Keyed.get?_without ?_)
    exact fun same => id.levelKey_notMem (same ▸ listed)
  rcases find_unknown_cases id ascending with ⟨search, known⟩ | ⟨entry, search, fault⟩
  · rw [search, counts]
    refine ((checkCounts_settles id settings id.countKeys).bind_ok fun _ => ⟨_, rfl⟩).congr
      (iff_and_self.mpr fun _ => known) fun error => ⟨fun first => .inr ⟨known, first⟩, ?_⟩
    rintro (⟨entry, member, unknown, -⟩ | ⟨-, first⟩)
    · exact absurd (known entry member) unknown
    · exact first
  · have unknown : ¬ ∀ entry ∈ settings, id.HasSetting entry.1 := by
      obtain ⟨entry, member, unknown, -⟩ := fault
      exact fun known => unknown (known entry member)
    rw [search]
    refine .of_error rfl (fun both => unknown both.1) (.inl fault) fun error faults => ?_
    exact (faults.resolve_right fun both => unknown both.1).unique fault

theorem readRuleTable_settles (id : RuleId) (ascending : settings.Pairwise fun a b => a.1 < b.1) :
    Settles (readRuleTable id settings) (id.Documents settings) (SettingsFault id settings) := by
  have both := (readLevel_settles id settings).bind fun level _ =>
    @readSettings_settles id settings level ascending
  refine both.congr ?_ fun error => ?_
  · exact ⟨fun ⟨level, known, counts⟩ => ⟨level, known, counts⟩,
      fun ⟨level, known, counts⟩ => ⟨level, known, counts⟩⟩
  · constructor
    · rintro (⟨value, stated, fault⟩ | ⟨level, fault | ⟨known, first⟩⟩)
      · exact .level stated fault
      · exact .unknown level fault
      · exact .count level known first
    · rintro (⟨stated, fault⟩ | ⟨level, fault⟩ | ⟨level, known, first⟩)
      · exact .inl ⟨_, stated, fault⟩
      · exact .inr ⟨level, .inl fault⟩
      · exact .inr ⟨level, .inr ⟨known, first⟩⟩

theorem addEntry_rule_settles (root : Path) (config : Config) (id : RuleId) (ordered : value.Ordered) :
    Settles (addEntry root config id.name value) (id.Admits value) (RuleFault id value) := by
  unfold addEntry
  rw [if_neg id.name_ne_ignoreKey, RuleId.ofName?_eq_some_iff.mpr rfl]
  cases ordered with
  | boolean on =>
    have faultless (error : ConfigError) : ¬ RuleFault id (.boolean on) error := by
      rintro ⟨noSwitch, -⟩
      exact noSwitch on rfl
    cases on <;> exact .of_ok rfl (.switch _) faultless
  | @table settings ascending each =>
    refine ((readRuleTable_settles id ascending).bind_ok fun _ => ⟨_, rfl⟩).congr
      ⟨.table, fun admits => ?_⟩ fun error => ⟨.settings, fun faulty => ?_⟩
    · cases admits with
      | table documents => exact documents
    · cases faulty with
      | notTable _ noTable => exact absurd rfl (noTable settings)
      | settings fault => exact fault
  | _ =>
    refine .of_error rfl nofun (.notTable nofun nofun) fun error faulty => ?_
    cases faulty
    rfl

theorem addEntry_unnamed (root : Path) (config : Config) (value : Toml.Value) (noList : key ≠ ignoreKey)
    (noRule : ∀ id : RuleId, key ≠ id.name) : addEntry root config key value = .ok config := by
  have unnamed : RuleId.ofName? key = none := Option.eq_none_iff_forall_ne_some.mpr fun id named =>
    noRule id (RuleId.ofName?_eq_some_iff.mp named).symm
  unfold addEntry
  rw [if_neg noList, unnamed]

theorem addEntry_settles (root : Path) (config : Config) (key : String) (ordered : value.Ordered) :
    Settles (addEntry root config key value) (Fits root key value) (EntryFault root key value) := by
  by_cases list : key = ignoreKey
  · subst list
    have noRule (id : RuleId) : ignoreKey ≠ id.name := id.name_ne_ignoreKey.symm
    refine (addEntry_ignored_settles root config value).congr
      ⟨fun lists => ⟨fun _ => lists, fun id same => absurd same (noRule id)⟩, fun fits => fits.ignored rfl⟩
      fun error => ⟨.ignored rfl, ?_⟩
    rintro (⟨-, fault⟩ | ⟨id, same, -⟩)
    · exact fault
    · exact absurd same (noRule id)
  by_cases named : ∃ id : RuleId, key = id.name
  · obtain ⟨id, rfl⟩ := named
    refine (addEntry_rule_settles root config id ordered).congr
      ⟨fun admits => ⟨fun same => absurd same list, fun other same => ?_⟩, fun fits => fits.rule id rfl⟩
      fun error => ⟨.rule id rfl, ?_⟩
    · exact RuleId.name_injective same ▸ admits
    · rintro (⟨same, -⟩ | ⟨other, same, fault⟩)
      · exact absurd same list
      · exact RuleId.name_injective same ▸ fault
  · have noRule (id : RuleId) : key ≠ id.name := fun same => named ⟨id, same⟩
    refine .of_ok (addEntry_unnamed root config value list noRule)
      ⟨fun same => absurd same list, fun id same => absurd same (noRule id)⟩ fun error => ?_
    rintro (⟨same, -⟩ | ⟨id, same, -⟩)
    · exact list same
    · exact noRule id same

end Config

namespace Toml.Value

theorem plainItems_eq (items : List Value) : plainItems items = items.map plain := by
  induction items with
  | nil => rfl
  | cons item items ih => rw [plainItems, ih, List.map_cons]

theorem Ordered.plain {value : Value} (ordered : value.Ordered) : value.plain.Ordered := by
  induction ordered with
  | string text => exact .string text
  | integer n => exact .integer n
  | float x => exact .float x
  | boolean on => exact .boolean on
  | dateTime text =>
    refine .table (List.pairwise_singleton _ _) fun entry member => ?_
    rw [List.mem_singleton.mp member]
    exact .string text
  | array each ih =>
    rw [Value.plain, plainItems_eq]
    exact .array (List.forall_mem_map.mpr ih)
  | table ascending each ih =>
    rw [Value.plain, plainEntries_eq]
    exact .table (List.pairwise_map.mpr ascending) (List.forall_mem_map.mpr ih)

end Toml.Value

open Toml.Value

namespace Config

variable {root : Path} {config : Config} {key : String} {value item : Toml.Value}
  {table : Toml.Table} {id : RuleId} {settings : Settings} {error : ConfigError}

/-! What a table may hold does not turn on whether date-times stand in it as they are or as tables. -/

theorem namesPattern_plain_iff : NamesPattern root item.plain ↔ NamesPattern root item := by
  cases item <;> simp [NamesPattern, plain, Toml.dateTimeTable]

theorem listsPatterns_plain_iff : ListsPatterns root value.plain ↔ ListsPatterns root value := by
  cases value with
  | array items =>
    simp only [ListsPatterns, plain, plainItems_eq, Toml.Value.array.injEq, exists_eq_left',
      List.forall_mem_map, namesPattern_plain_iff]
  | _ => simp [ListsPatterns, plain, Toml.dateTimeTable]

theorem namesLevel_plain_iff : NamesLevel value.plain ↔ NamesLevel value := by
  cases value <;> simp [NamesLevel, plain, Toml.dateTimeTable]

theorem documents_plainEntries_iff : id.Documents (plainEntries settings) ↔ id.Documents settings := by
  have level : LevelFits (plainEntries settings) ↔ LevelFits settings := by
    rw [LevelFits, LevelFits, get?_plainEntries]
    cases Keyed.get? settings levelKey <;> simp [namesLevel_plain_iff]
  have known : (∀ entry ∈ plainEntries settings, id.HasSetting entry.1) ↔
      ∀ entry ∈ settings, id.HasSetting entry.1 := by
    rw [plainEntries_eq, List.forall_mem_map]
  have counts (key : String) : (∃ count, Settings.count (plainEntries settings) key = .ok count) ↔
      ∃ count, settings.count key = .ok count := by
    simp only [← toOption_eq_some_iff, Settings.count_plainEntries]
  constructor
  · rintro ⟨fits, listed, counted⟩
    exact ⟨level.mp fits, known.mp listed, fun key member => (counts key).mp (counted key member)⟩
  · rintro ⟨fits, listed, counted⟩
    exact ⟨level.mpr fits, known.mpr listed, fun key member => (counts key).mpr (counted key member)⟩

theorem admits_plain_iff : id.Admits value.plain ↔ id.Admits value := by
  cases value with
  | boolean on => rfl
  | table settings =>
    constructor
    · rintro (_ | documents)
      exact .table (documents_plainEntries_iff.mp documents)
    · rintro (_ | documents)
      exact .table (documents_plainEntries_iff.mpr documents)
  | dateTime text =>
    refine ⟨fun admits => ?_, nofun⟩
    obtain _ | documents := admits
    have noLevel : Toml.dateTimeKey ≠ levelKey := by decide
    rcases documents.known _ List.mem_cons_self with level | listed
    · exact absurd level noLevel
    · exact absurd listed id.dateTimeKey_notMem
  | _ => exact ⟨nofun, nofun⟩

theorem fits_plain_iff : Fits root key value.plain ↔ Fits root key value := by
  constructor
  · rintro ⟨ignored, rule⟩
    exact ⟨fun same => listsPatterns_plain_iff.mp (ignored same),
      fun id same => admits_plain_iff.mp (rule id same)⟩
  · rintro ⟨ignored, rule⟩
    exact ⟨fun same => listsPatterns_plain_iff.mpr (ignored same),
      fun id same => admits_plain_iff.mpr (rule id same)⟩

theorem ofValue_table (root : Path) (table : Toml.Table) : ofValue root (.table table) =
    table.foldlM (fun config entry => addEntry root config entry.1 entry.2.plain) {} := by
  have plain : ofValue root (.table table) = ofTable root (plainEntries table) := rfl
  rw [plain, ofTable, plainEntries_eq, List.foldlM_map]

/-- A key that is no one's changes nothing, whatever stands under it. -/
theorem ofValue_without (root : Path) (table : Toml.Table) (noList : key ≠ ignoreKey)
    (noRule : ∀ id : RuleId, key ≠ id.name) :
    ofValue root (.table (Keyed.without table key)) = ofValue root (.table table) := by
  rw [ofValue_table, ofValue_table, Keyed.without, List.foldlM_filter]
  congr 1
  funext config entry
  by_cases same : entry.1 = key
  · rw [if_neg (by simp [same]), same, addEntry_unnamed root config _ noList noRule]
    rfl
  · rw [if_pos (by simp [same])]

theorem ofValue_settles (root : Path) (ordered : (Toml.Value.table table).Ordered) :
    Settles (ofValue root (.table table)) (Documented root table) fun error =>
      ∃ entry ∈ table, EntryFault root entry.1 entry.2.plain error ∧
        ∀ earlier ∈ table, Text.bytes earlier.1 < Text.bytes entry.1 →
          Fits root earlier.1 earlier.2 := by
  cases ordered with
  | table ascending each =>
    have entries : Settles (ofValue root (.table table)) (Documented root table)
        (FirstFault (fun entry => Fits root entry.1 entry.2)
          (fun entry => EntryFault root entry.1 entry.2.plain) table) := by
      rw [ofValue_table]
      refine .foldlM (fun entry member config => ?_) _
      exact (addEntry_settles root config entry.1 (each entry member).plain).congr fits_plain_iff
        fun _ => Iff.rfl
    refine entries.congr Iff.rfl fun error => ?_
    simp only [Text.bytes_lt_iff]
    exact firstFault_iff_of_pairwise (fun _ => lt_irrefl _) (fun _ _ => lt_asymm) ascending

/-- Exactly the documented tables are configurations. Any other is refused for its first key, in the order
of bytes, that does not fit, with the fault of that key. Keys that are no one's change nothing. -/
theorem ofValue_documented (root : Path) (ordered : (Toml.Value.table table).Ordered) :
    ((∃ config, ofValue root (.table table) = .ok config) ↔ Documented root table) ∧
      (∀ error, ofValue root (.table table) = .error error ↔
        ∃ entry ∈ table, EntryFault root entry.1 entry.2.plain error ∧
          ∀ earlier ∈ table, Text.bytes earlier.1 < Text.bytes entry.1 →
            Fits root earlier.1 earlier.2) ∧
      ∀ key, key ≠ ignoreKey → (∀ id : RuleId, key ≠ id.name) →
        ofValue root (.table (Keyed.without table key)) = ofValue root (.table table) :=
  ⟨(ofValue_settles root ordered).ok_iff, (ofValue_settles root ordered).error_iff,
    fun _ => ofValue_without root table⟩

/-- A count that is none, and two keys that are no settings. -/
def misspeltSettings : Settings :=
  [("empty_lines_after_opening_brace", .string "one"), ("empty_lines_before_closing", .integer 1),
    ("empty_lines_within", .integer 0)]

def misspeltTable : Toml.Table :=
  [("Rule001BraceSpacing", .table misspeltSettings), ("ignore_patterns", .string "vendor/**"),
    ("ignored", .boolean true)]

/-- Of the four faults, that of the first key that is no setting is told. -/
theorem ofValue_documented_misspeltTable :
    (Toml.Value.table misspeltTable).Ordered ∧
      ofValue ⟨"/"⟩ (.table misspeltTable) =
        .error (.unknownSetting .braceSpacing "empty_lines_before_closing") ∧
      ¬ Documented ⟨"/"⟩ misspeltTable ∧
      ofValue ⟨"/"⟩ (.table (Keyed.without misspeltTable "ignored")) =
        ofValue ⟨"/"⟩ (.table misspeltTable) := by
  have ordered : (Toml.Value.table misspeltTable).Ordered := by
    refine .table (by decide) ?_
    simp only [misspeltTable, List.forall_mem_cons]
    refine ⟨.table (by decide) ?_, .string _, .boolean _, nofun⟩
    simp only [misspeltSettings, List.forall_mem_cons]
    exact ⟨.string _, .integer _, .integer _, nofun⟩
  obtain ⟨accepted, refused, unnamed⟩ := ofValue_documented ⟨"/"⟩ ordered
  have unknown : UnknownFault .braceSpacing (plainEntries misspeltSettings)
      (.unknownSetting .braceSpacing "empty_lines_before_closing") := by
    refine ⟨_, List.mem_cons_of_mem _ List.mem_cons_self, by decide, ?_, rfl⟩
    simp only [plainEntries_eq, misspeltSettings, List.forall_mem_map, List.forall_mem_cons,
      Text.bytes_lt_iff]
    exact ⟨fun _ => by decide, fun less => absurd less (by decide), fun less => absurd less (by decide),
      nofun⟩
  have fails := (refused _).mpr ⟨_, List.mem_cons_self,
    .rule .braceSpacing rfl (.settings (.unknown nofun unknown)), by
      simp only [misspeltTable, List.forall_mem_cons, Text.bytes_lt_iff]
      exact ⟨fun less => absurd less (by decide), fun less => absurd less (by decide),
        fun less => absurd less (by decide), nofun⟩⟩
  refine ⟨ordered, fails, fun documented => ?_, unnamed "ignored" (by decide) fun id => ?_⟩
  · obtain ⟨config, loads⟩ := accepted.mpr documented
    exact absurd (fails.symm.trans loads) nofun
  · cases id <;> decide

end Config

end BlankLines
