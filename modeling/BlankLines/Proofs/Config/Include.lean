import BlankLines.Proofs.Config.Tables
import BlankLines.Proofs.FileTree.Following
import BlankLines.Proofs.Toml.Value

/-!
Includes. A configuration is read from a file as from the table in which each include is replaced by the
table of its file. Where such a file cannot be read, that is the fault, whatever else the table holds.
-/
namespace BlankLines

namespace Path

variable {path : Path} {relative : Bool} {parts : List (List Char)}

theorem idle_of_dropIdle_eq_nil (none : dropIdle relative parts = []) :
    ∀ part ∈ parts, part = [] ∨ part = ['.'] := by
  induction parts with
  | nil => exact fun _ member => absurd member List.not_mem_nil
  | cons part before ih =>
    rw [dropIdle] at none
    split at none
    · next idle =>
      refine List.forall_mem_cons.mpr ⟨?_, ih none⟩
      rw [isIdle, Bool.or_eq_true, Bool.and_eq_true, decide_eq_true_eq, decide_eq_true_eq] at idle
      exact idle.imp_right And.left
    · cases none

/-- A path without a directory above it leads nowhere but to where it begins. -/
theorem idle_of_parent?_eq_none (top : path.parent? = none) :
    ∀ part ∈ path.parts, part = "" ∨ part = "." := by
  have idle {relative : Bool} {chars : List Char}
      (none : dropIdle relative (splitSlashes chars).reverse = []) :
      ∀ part ∈ (splitSlashes chars).map String.ofList, part = "" ∨ part = "." := by
    refine List.forall_mem_map.mpr fun part member => ?_
    exact (idle_of_dropIdle_eq_nil none part (List.mem_reverse.mpr member)).imp
      (congrArg String.ofList) (congrArg String.ofList)
  rw [parent?] at top
  rw [parts]
  split at top
  · next absolute =>
    obtain ⟨rest, slash⟩ := List.head?_eq_some_iff.mp (of_decide_eq_true absolute)
    rw [slash, splitSlashes, if_pos rfl, List.map_cons]
    split at top
    · next dropped =>
      rw [slash] at dropped
      exact List.forall_mem_cons.mpr ⟨.inl rfl, idle dropped⟩
    · cases top
  · split at top
    · next dropped => exact idle dropped
    · cases top

end Path

namespace FileTree

variable {root : FileTree} {names next parts : List String} {path : Path} {text : String}

theorem follow_of_idle (idle : ∀ part ∈ parts, part = "" ∨ part = ".")
    (followed : root.follow names parts = .ok next) : next = names := by
  induction parts generalizing names with
  | nil => exact (Except.ok.inj followed).symm
  | cons part parts ih =>
    obtain ⟨first, rest⟩ := List.forall_mem_cons.mp idle
    obtain ⟨here, stepped, followed⟩ := bind_eq_ok_iff.mp followed
    have leads := (step_eq_ok_iff.mp stepped).2
    rw [if_pos first] at leads
    rw [ih rest followed, leads]

/-- What can be read stands in a directory. -/
theorem exists_parent_of_readText (reads : root.readText path = .ok text) :
    ∃ base, path.parent? = some base := by
  obtain ⟨bytes, found⟩ := exists_file_of_readText reads
  obtain ⟨names, _, followed, place⟩ := locate_eq_ok_iff.mp found
  cases parent : path.parent? with
  | some base => exact ⟨base, rfl⟩
  | none =>
    -- All parts stay at the root, which is a directory: the first one has been followed from there.
    have idle := Path.idle_of_parent?_eq_none parent
    obtain rfl := follow_of_idle idle followed
    rw [Path.parts_eq_append, follow_append] at followed
    obtain ⟨before, earlier, last⟩ := bind_eq_ok_iff.mp followed
    obtain ⟨_, stepped, _⟩ := bind_eq_ok_iff.mp last
    have front : ∀ part ∈ path.parts.dropLast, part = "" ∨ part = "." :=
      fun part member => idle part ((List.dropLast_sublist _).mem member)
    obtain rfl := follow_of_idle front earlier
    obtain ⟨entries, directory⟩ := kindAt_eq_directory_iff.mp (step_eq_ok_iff.mp stepped).1
    exact absurd (place.symm.trans directory) nofun

end FileTree

namespace Config

/-- The text of an include. -/
def includeText (target : String) : String :=
  "include('" ++ target ++ "')"

/-- A file can be read, and what it says is a table. -/
def Holds (tree : FileTree) (path : Path) (table : Toml.Table) : Prop :=
  ∃ text, tree.readText path = .ok text ∧ Toml.parse text = some table

/-- An include becomes the table of its file. Any other entry stays as it is. -/
inductive Inlines (tree : FileTree) (base : Path) (entry : String × Toml.Value) :
    String × Toml.Value → Prop
  | other (other : ∀ target, entry.2 ≠ .string (includeText target)) : Inlines tree base entry entry
  | included {target : String} {table : Toml.Table} (includes : entry.2 = .string (includeText target))
      (holds : Holds tree (base.join ⟨target⟩) table) : Inlines tree base entry (entry.1, .table table)

/-- What is wrong with an include. -/
inductive IncludeFault (tree : FileTree) (base : Path) (entry : String × Toml.Value) :
    ConfigError → Prop
  | unreadable {target : String} {fault : FileError} (includes : entry.2 = .string (includeText target))
      (fails : tree.readText (base.join ⟨target⟩) = .error fault) :
    IncludeFault tree base entry (.includeUnreadable entry.1 (base.join ⟨target⟩) fault)
  | unparsable {target text : String} (includes : entry.2 = .string (includeText target))
      (reads : tree.readText (base.join ⟨target⟩) = .ok text) (refused : Toml.parse text = none) :
    IncludeFault tree base entry (.includeUnparsable entry.1 (base.join ⟨target⟩))

variable {tree : FileTree} {base path : Path} {key target : String} {value : Toml.Value}
  {table inlined : Toml.Table} {entry entry' : String × Toml.Value} {error : ConfigError}

theorem includeTarget?_eq_some_iff :
    includeTarget? value = some ⟨target⟩ ↔ value = .string (includeText target) := by
  cases value with
  | string text =>
    rw [Toml.Value.string.injEq, ← String.toList_inj, includeText, String.toList_append,
      String.toList_append, includeTarget?, Option.ite_none_right_eq_some]
    simp only [Bool.and_eq_true, List.isPrefixOf_iff_prefix, List.isSuffixOf_iff_suffix]
    constructor
    · rintro ⟨⟨⟨inside, opened⟩, closed⟩, same⟩
      rw [← opened, List.drop_left] at closed same
      obtain ⟨middle, rfl⟩ := closed
      rw [List.length_append, Nat.add_sub_cancel, List.take_left] at same
      obtain rfl := Path.mk.inj (Option.some.inj same)
      have inner : (String.ofList middle).toList = middle := String.toList_ofList
      rw [inner, ← opened, List.append_assoc]
    · intro same
      rw [same, List.append_assoc, List.drop_left]
      refine ⟨⟨List.prefix_append _ _, List.suffix_append _ _⟩, ?_⟩
      rw [List.length_append, Nat.add_sub_cancel, List.take_left, String.ofList_toList]
  | _ => simp [includeTarget?]

/-- A text is an include of some target, or of none. -/
theorem includeTarget?_eq_none_iff :
    includeTarget? value = none ↔ ∀ target, value ≠ .string (includeText target) := by
  simp only [Option.eq_none_iff_forall_ne_some, ne_eq, ← includeTarget?_eq_some_iff]
  exact ⟨fun other target => other ⟨target⟩, fun other path => other path.text⟩

/-- An include has one target. -/
theorem includeText_injective : Function.Injective includeText := by
  intro target target' same
  have found := includeTarget?_eq_some_iff.mpr (congrArg Toml.Value.string same)
  rw [includeTarget?_eq_some_iff.mpr rfl] at found
  exact Path.mk.inj (Option.some.inj found)

theorem target_unique {target' : String} (includes : entry.2 = .string (includeText target))
    (includes' : entry.2 = .string (includeText target')) : target = target' :=
  includeText_injective (Toml.Value.string.inj (includes.symm.trans includes'))

/-- An entry with its include resolved. -/
def resolveEntry (tree : FileTree) (base : Path) (entry : String × Toml.Value) :
    Except ConfigError (String × Toml.Value) := do
  return (entry.1, ← resolveInclude tree base entry.1 entry.2)

theorem Inlines.resolveEntry_eq (inlines : Inlines tree base entry entry') :
    resolveEntry tree base entry = .ok entry' := by
  rw [resolveEntry, resolveInclude]
  cases inlines with
  | other other =>
    rw [includeTarget?_eq_none_iff.mpr other]
    rfl
  | included includes holds =>
    obtain ⟨text, reads, parsed⟩ := holds
    rw [includeTarget?_eq_some_iff.mpr includes]
    dsimp only
    rw [reads]
    dsimp only
    rw [parsed]
    rfl

theorem IncludeFault.resolveEntry_eq (fault : IncludeFault tree base entry error) :
    resolveEntry tree base entry = .error error := by
  rw [resolveEntry, resolveInclude]
  cases fault with
  | unreadable includes fails =>
    rw [includeTarget?_eq_some_iff.mpr includes]
    dsimp only
    rw [fails]
    rfl
  | unparsable includes reads refused =>
    rw [includeTarget?_eq_some_iff.mpr includes]
    dsimp only
    rw [reads]
    dsimp only
    rw [refused]
    rfl

/-- Either an entry can be inlined, or there is a fault in the file of its include. -/
theorem inlines_or_fault (tree : FileTree) (base : Path) (entry : String × Toml.Value) :
    (∃ entry', Inlines tree base entry entry') ∨ ∃ error, IncludeFault tree base entry error := by
  cases target : includeTarget? entry.2 with
  | none => exact .inl ⟨entry, .other (includeTarget?_eq_none_iff.mp target)⟩
  | some path =>
    have includes : entry.2 = .string (includeText path.text) := includeTarget?_eq_some_iff.mp target
    cases reads : tree.readText (base.join path) with
    | error fault => exact .inr ⟨_, .unreadable includes reads⟩
    | ok text =>
      cases parsed : Toml.parse text with
      | some table => exact .inl ⟨_, .included includes ⟨text, reads, parsed⟩⟩
      | none => exact .inr ⟨_, .unparsable includes reads parsed⟩

theorem resolveEntry_eq_ok_iff :
    resolveEntry tree base entry = .ok entry' ↔ Inlines tree base entry entry' := by
  refine ⟨fun resolves => ?_, Inlines.resolveEntry_eq⟩
  rcases inlines_or_fault tree base entry with ⟨other, inlines⟩ | ⟨error, fault⟩
  · rw [inlines.resolveEntry_eq, Except.ok.injEq] at resolves
    exact resolves ▸ inlines
  · exact absurd (fault.resolveEntry_eq.symm.trans resolves) nofun

theorem resolveEntry_settles (tree : FileTree) (base : Path) (entry : String × Toml.Value) :
    Settles (resolveEntry tree base entry) (∃ entry', Inlines tree base entry entry')
      (IncludeFault tree base entry) where
  ok_iff := exists_congr fun _ => resolveEntry_eq_ok_iff
  error_iff error := by
    refine ⟨fun fails => ?_, IncludeFault.resolveEntry_eq⟩
    rcases inlines_or_fault tree base entry with ⟨other, inlines⟩ | ⟨error, fault⟩
    · exact absurd (inlines.resolveEntry_eq.symm.trans fails) nofun
    · rw [fault.resolveEntry_eq, Except.error.injEq] at fails
      exact fails ▸ fault

/-- An entry can be inlined if its include, where it is one, names a file with a table. -/
theorem exists_inlines_iff : (∃ entry', Inlines tree base entry entry') ↔
    ∀ target, entry.2 = .string (includeText target) →
      ∃ included, Holds tree (base.join ⟨target⟩) included := by
  constructor
  · rintro ⟨_, other | ⟨includes, holds⟩⟩ target included
    · exact absurd included (other target)
    · exact target_unique includes included ▸ ⟨_, holds⟩
  · intro each
    rcases inlines_or_fault tree base entry with
      inlines | ⟨_, ⟨includes, fails⟩ | ⟨includes, reads, refused⟩⟩
    · exact inlines
    · obtain ⟨_, text, found, _⟩ := each _ includes
      exact absurd (fails.symm.trans found) nofun
    · obtain ⟨_, text, found, parsed⟩ := each _ includes
      obtain rfl := Except.ok.inj (reads.symm.trans found)
      exact absurd (refused.symm.trans parsed) nofun

theorem resolveIncludes_eq_ok_iff : resolveIncludes tree base table = .ok inlined ↔
    table.Forall₂ (Inlines tree base) inlined := by
  have each : (fun entry entry' => resolveEntry tree base entry = .ok entry') = Inlines tree base :=
    funext fun _ => funext fun _ => propext resolveEntry_eq_ok_iff
  rw [← each]
  exact mapM_eq_ok_iff

theorem resolveIncludes_settles (tree : FileTree) (base : Path) (table : Toml.Table) :
    Settles (resolveIncludes tree base table)
      (∀ entry ∈ table, ∃ entry', Inlines tree base entry entry')
      (FirstFault (fun entry => ∃ entry', Inlines tree base entry entry') (IncludeFault tree base)
        table) :=
  .mapM fun entry _ => resolveEntry_settles tree base entry

theorem load_of_holds (holds : Holds tree path table) (parent : path.parent? = some base) :
    load tree path = resolveIncludes tree base table >>= fun inlined => ofValue base (.table inlined) := by
  obtain ⟨text, reads, parsed⟩ := holds
  rw [load, parent]
  dsimp only
  rw [reads]
  dsimp only
  rw [parsed]

/-- A file with includes is read like the one table that comes of putting theirs in their places, if all
of them can be read. If one cannot, nothing else in the file counts: the fault of the first such include
is told. -/
theorem load_inlined (holds : Holds tree path table) :
    ∃ base, path.parent? = some base ∧
      ((∀ entry ∈ table, ∀ target, entry.2 = .string (includeText target) →
          ∃ included, Holds tree (base.join ⟨target⟩) included) →
        ∃ inlined, (∀ other, table.Forall₂ (Inlines tree base) other ↔ other = inlined) ∧
          load tree path = ofValue base (.table inlined)) ∧
      ∀ entry ∈ table, ∀ target, entry.2 = .string (includeText target) →
        (∀ included, ¬ Holds tree (base.join ⟨target⟩) included) →
          ∃ error, FirstFault (fun entry => ∃ entry', Inlines tree base entry entry')
            (IncludeFault tree base) table error ∧ load tree path = .error error := by
  obtain ⟨text, reads, parsed⟩ := holds
  obtain ⟨base, parent⟩ := FileTree.exists_parent_of_readText reads
  have loads := load_of_holds ⟨text, reads, parsed⟩ parent
  have settles := resolveIncludes_settles tree base table
  refine ⟨base, parent, fun each => ?_, fun entry member target includes missing => ?_⟩
  · obtain ⟨inlined, resolved⟩ := settles.ok_iff.mpr fun entry member =>
      exists_inlines_iff.mpr (each entry member)
    refine ⟨inlined, fun other => ?_, by rw [loads, resolved]; rfl⟩
    rw [← resolveIncludes_eq_ok_iff, resolved, Except.ok.injEq]
    exact eq_comm
  · cases resolved : resolveIncludes tree base table with
    | ok inlined =>
      have each := exists_inlines_iff.mp (settles.ok_iff.mp ⟨inlined, resolved⟩ entry member)
      obtain ⟨included, found⟩ := each target includes
      exact absurd found (missing included)
    | error error =>
      refine ⟨error, (settles.error_iff error).mp resolved, ?_⟩
      rw [loads, resolved]
      rfl

/-- A configuration with the table of a rule in a file of its own. -/
def splitFiles : FileTree :=
  .directory [("c.toml", .file "Rule002MethodSpacing = \"include('m.toml')\"\n".toUTF8),
    ("m.toml", .file "blank_lines_between_methods = 1\n".toUTF8)]

theorem holds_splitFiles :
    Holds splitFiles ⟨"/c.toml"⟩ [("Rule002MethodSpacing", .string (includeText "m.toml"))] ∧
      Holds splitFiles ⟨"/m.toml"⟩ [(RuleId.betweenMethodsKey, .integer 1)] := by
  have located {path : Path} {name text : String} (parts : path.parts = ["", name])
      (checked : FileTree.checkPath path = .ok ())
      (found : splitFiles.find? [name] = some (.file text.toUTF8))
      (followed : splitFiles.follow [] ["", name] = .ok [name]) : splitFiles.readText path = .ok text := by
    have place := FileTree.locate_eq_ok_iff.mpr ⟨[name], checked, parts ▸ followed, found⟩
    exact FileTree.readText_of_locate place
  have main : splitFiles.readText ⟨"/c.toml"⟩ = .ok _ :=
    located rfl (FileTree.checkPath_eq_ok_iff.mpr (by decide)) rfl rfl
  have methods : splitFiles.readText ⟨"/m.toml"⟩ = .ok _ :=
    located rfl (FileTree.checkPath_eq_ok_iff.mpr (by decide)) rfl rfl
  exact ⟨⟨_, main, by decide +kernel⟩, ⟨_, methods, by decide +kernel⟩⟩

theorem load_inlined_splitFiles :
    Holds splitFiles ⟨"/c.toml"⟩ [("Rule002MethodSpacing", .string (includeText "m.toml"))] ∧
      load splitFiles ⟨"/c.toml"⟩ = ofValue ⟨"/"⟩
        (.table [("Rule002MethodSpacing", .table [(RuleId.betweenMethodsKey, .integer 1)])]) := by
  obtain ⟨main, methods⟩ := holds_splitFiles
  obtain ⟨base, parent, joins, _⟩ := load_inlined main
  have root : (⟨"/c.toml"⟩ : Path).parent? = some ⟨"/"⟩ := by decide +kernel
  obtain rfl := Option.some.inj (root.symm.trans parent)
  have each : ∀ entry ∈ [("Rule002MethodSpacing", Toml.Value.string (includeText "m.toml"))],
      ∀ target, entry.2 = .string (includeText target) →
        ∃ included, Holds splitFiles ((⟨"/"⟩ : Path).join ⟨target⟩) included := by
    refine List.forall_mem_singleton.mpr fun target includes => ?_
    rw [← includeText_injective (Toml.Value.string.inj includes)]
    exact ⟨_, methods⟩
  obtain ⟨inlined, only, loads⟩ := joins each
  rw [(only _).mp (.cons (.included rfl methods) .nil)]
  exact ⟨main, loads⟩

end Config

end BlankLines
