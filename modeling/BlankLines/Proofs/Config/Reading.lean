import BlankLines.Config
import BlankLines.Proofs.Attempt
import BlankLines.Proofs.Keyed

/-!
What reading a table does to the entries of the rules. A key of the table is taken over by the rule that
it names and by no other, and what is taken over has been checked.
-/
namespace BlankLines

theorem RuleId.name_injective : Function.Injective RuleId.name := by
  intro id other same
  cases id <;> cases other <;> first | rfl | exact absurd same (by decide)

theorem RuleId.ofName?_eq_some_iff {name : String} {id : RuleId} :
    RuleId.ofName? name = some id ↔ id.name = name := by
  constructor
  · intro found
    simpa using List.find?_some found
  · rintro rfl
    cases id <;> decide

theorem RuleId.name_ne_ignoreKey (id : RuleId) : id.name ≠ Config.ignoreKey := by
  cases id <;> decide

/-- Every count that the rule reads from its settings is one. -/
def RuleEntry.Checked (entry : RuleEntry) : Prop :=
  ∀ settings, entry.settings = some settings →
    ∀ key ∈ entry.id.countKeys, ∃ count, settings.count key = .ok count

/-- What the entry of a rule becomes by what a table has under the name of the rule, if anything. -/
inductive RuleEntry.Takes (entry : RuleEntry) : Option Toml.Value → RuleEntry → Prop
  | absent : entry.Takes none entry
  | on : entry.Takes (some (.boolean true)) entry
  | off : entry.Takes (some (.boolean false)) { entry with active := false }
  | table {table : Toml.Table} {stated : Option Level}
      (level : Config.readLevel entry.id table = .ok stated)
      (known : ∀ pair ∈ Keyed.without table Config.levelKey, pair.1 ∈ entry.id.countKeys)
      (counts : ∀ key ∈ entry.id.countKeys,
        ∃ count, Settings.count (Keyed.without table Config.levelKey) key = .ok count) :
      entry.Takes (some (.table table))
        { entry with
          level := stated.getD entry.level
          settings := some (Keyed.without table Config.levelKey) }

namespace RuleEntry.Takes

variable {entry new : RuleEntry} {value : Option Toml.Value}

theorem id_eq (takes : entry.Takes value new) : new.id = entry.id := by
  cases takes <;> rfl

theorem eq_of_none (takes : entry.Takes none new) : new = entry := by
  cases takes
  rfl

theorem checked (takes : entry.Takes value new) (checked : entry.Checked) : new.Checked := by
  cases takes with
  | absent => exact checked
  | on => exact checked
  | off => exact checked
  | table level known counts =>
    intro settings same
    obtain rfl := Option.some.inj same
    exact counts

end RuleEntry.Takes

theorem forall₂_comp {α β γ : Type} {first : α → β → Prop} {second : β → γ → Prop}
    {both : α → γ → Prop} (comp : ∀ a b c, first a b → second b c → both a c) {as : List α}
    {bs : List β} {cs : List γ} (before : as.Forall₂ first bs) (after : bs.Forall₂ second cs) :
    as.Forall₂ both cs := by
  induction before generalizing cs with
  | nil =>
    cases after
    exact .nil
  | cons here _ ih =>
    cases after with
    | cons next rest => exact .cons (comp _ _ _ here next) (ih rest)

theorem forall_of_forall₂ {α β : Type} {related : α → β → Prop} {p : α → Prop} {q : β → Prop}
    {as : List α} {bs : List β} (keeps : ∀ a b, related a b → p a → q b)
    (pairs : as.Forall₂ related bs) (holds : ∀ a ∈ as, p a) : ∀ b ∈ bs, q b := by
  induction pairs with
  | nil => exact fun b member => absurd member List.not_mem_nil
  | cons here _ ih =>
    obtain ⟨first, rest⟩ := List.forall_mem_cons.mp holds
    exact List.forall_mem_cons.mpr ⟨keeps _ _ here first, ih rest⟩

namespace Config

variable {root : Path} {config next : Config} {key : String} {value : Toml.Value}
  {table : Toml.Table} {id : RuleId} {settings : Settings}

theorem checkCounts_eq_ok_iff {keys : List String} : checkCounts id settings keys = .ok () ↔
    ∀ key ∈ keys, ∃ count, settings.count key = .ok count := by
  induction keys with
  | nil => simp [checkCounts]
  | cons key keys ih =>
    rw [checkCounts, List.forall_mem_cons]
    split
    · next found => simp [found, ih]
    · next found => simp [found]

theorem readRuleTable_eq_ok_iff {stated : Option Level} :
    readRuleTable id table = .ok (stated, settings) ↔
      readLevel id table = .ok stated ∧ settings = Keyed.without table levelKey ∧
        (∀ pair ∈ settings, pair.1 ∈ id.countKeys) ∧
        ∀ key ∈ id.countKeys, ∃ count, settings.count key = .ok count := by
  rw [readRuleTable, bind_eq_ok_iff]
  constructor
  · rintro ⟨level, read, rest⟩
    dsimp only at rest
    split at rest
    · cases rest
    · next search =>
      obtain ⟨⟨⟩, counted, same⟩ := bind_eq_ok_iff.mp rest
      cases same
      refine ⟨read, rfl, fun pair member => ?_, checkCounts_eq_ok_iff.mp counted⟩
      simpa using List.find?_eq_none.mp search pair member
  · rintro ⟨read, rfl, known, counts⟩
    refine ⟨stated, read, ?_⟩
    dsimp only
    split
    · next search =>
      have listed := known _ (List.mem_of_find?_eq_some search)
      have unknown := List.find?_some search
      exact absurd listed (by simpa using unknown)
    · exact bind_eq_ok_iff.mpr ⟨(), checkCounts_eq_ok_iff.mpr counts, rfl⟩

/-- One entry of a table changes the rule that its key names, and no other. -/
theorem rules_addEntry (added : addEntry root config key value = .ok next) :
    config.rules.Forall₂ (fun entry new =>
      entry.Takes (if key = entry.id.name then some value else none) new) next.rules := by
  unfold addEntry at added
  split at added
  · next ignored =>
    have unnamed (id : RuleId) : key ≠ id.name := fun same => id.name_ne_ignoreKey (same ▸ ignored)
    have kept : next.rules = config.rules := by
      split at added
      · obtain ⟨patterns, _, same⟩ := bind_eq_ok_iff.mp added
        cases same
        rfl
      · cases added
    rw [kept, List.forall₂_same]
    intro entry _
    rw [if_neg (unnamed entry.id)]
    exact .absent
  · split at added
    · next unnamed =>
      cases added
      rw [List.forall₂_same]
      intro entry _
      have differs : key ≠ entry.id.name := by
        rintro rfl
        exact Option.some_ne_none _ ((RuleId.ofName?_eq_some_iff.mpr rfl).symm.trans unnamed)
      rw [if_neg differs]
      exact .absent
    · next id named =>
      obtain rfl := RuleId.ofName?_eq_some_iff.mp named
      -- Only the entry of the rule itself is changed.
      have changed {change : RuleEntry → RuleEntry} (takes : ∀ entry : RuleEntry, entry.id = id →
          entry.Takes (some value) (change entry)) :
          config.rules.Forall₂ (fun entry new =>
            entry.Takes (if id.name = entry.id.name then some value else none) new)
            (config.changeRule id change).rules := by
        rw [changeRule, List.forall₂_map_right_iff, List.forall₂_same]
        intro entry _
        by_cases same : entry.id = id
        · rw [if_pos same, if_pos (congrArg RuleId.name same.symm)]
          exact takes entry same
        · rw [if_neg same, if_neg fun names => same (RuleId.name_injective names).symm]
          exact .absent
      split at added
      · cases added
        rw [List.forall₂_same]
        intro entry _
        split
        · exact .on
        · exact .absent
      · cases added
        exact changed fun entry _ => .off
      · obtain ⟨⟨stated, settings⟩, read, same⟩ := bind_eq_ok_iff.mp added
        obtain ⟨level, rfl, known, counts⟩ := readRuleTable_eq_ok_iff.mp read
        cases same
        refine changed fun entry same => ?_
        subst same
        exact .table level known counts
      · cases added

/-- The rules after some entries have been taken over, none of whose keys stands twice. -/
theorem rules_foldlM (distinct : Keyed.Distinct table)
    (loads : table.foldlM (fun config (key, value) => addEntry root config key value) config =
      .ok next) :
    config.rules.Forall₂ (fun entry new => entry.Takes (Keyed.get? table entry.id.name) new)
      next.rules := by
  induction table generalizing config with
  | nil =>
    cases loads
    exact List.forall₂_same.mpr fun entry _ => .absent
  | cons pair table ih =>
    obtain ⟨key, value⟩ := pair
    obtain ⟨fresh, distinct⟩ := distinct.tail
    rw [List.foldlM_cons] at loads
    obtain ⟨middle, added, loads⟩ := bind_eq_ok_iff.mp loads
    refine forall₂_comp (fun entry mid new first later => ?_) (rules_addEntry added) (ih distinct loads)
    rw [first.id_eq] at later
    rw [Keyed.get?_cons]
    by_cases named : key = entry.id.name
    · rw [if_pos named] at first ⊢
      rw [← named, fresh] at later
      rw [later.eq_of_none]
      exact first
    · rw [if_neg named] at first ⊢
      obtain rfl := first.eq_of_none
      exact later

/-- Each rule has taken over what the table holds under its name. -/
theorem rules_ofTable (distinct : Keyed.Distinct table) (loads : ofTable root table = .ok config) :
    RuleId.all.Forall₂ (fun id entry =>
      ({ id } : RuleEntry).Takes (Keyed.get? table id.name) entry) config.rules := by
  have taken := rules_foldlM distinct loads
  rwa [List.forall₂_map_left_iff] at taken

theorem checked_foldlM (checked : ∀ entry ∈ config.rules, entry.Checked)
    (loads : table.foldlM (fun config (key, value) => addEntry root config key value) config =
      .ok next) :
    ∀ entry ∈ next.rules, entry.Checked := by
  induction table generalizing config with
  | nil =>
    cases loads
    exact checked
  | cons pair table ih =>
    rw [List.foldlM_cons] at loads
    obtain ⟨middle, added, loads⟩ := bind_eq_ok_iff.mp loads
    have kept := forall_of_forall₂ (fun entry new takes => takes.checked) (rules_addEntry added) checked
    exact ih kept loads

theorem checked_default : ∀ entry ∈ ({} : Config).rules, entry.Checked := by
  intro entry member
  obtain ⟨id, _, rfl⟩ := List.mem_map.mp member
  exact fun settings none => absurd none nofun

/-- What a configuration holds has been checked, also where a table has a key twice. -/
theorem checked_ofTable (loads : ofTable root table = .ok config) :
    ∀ entry ∈ config.rules, entry.Checked :=
  checked_foldlM checked_default loads

theorem checked_ofValue (loads : ofValue root value = .ok config) :
    ∀ entry ∈ config.rules, entry.Checked := by
  rw [ofValue] at loads
  split at loads
  · exact checked_ofTable loads
  · cases loads

end Config

end BlankLines
