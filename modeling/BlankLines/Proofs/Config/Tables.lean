import BlankLines.Config.File
import BlankLines.Proofs.Attempt
import BlankLines.Proofs.Keyed

/-!
The tables that configurations are read from: every table in them has its keys in order, none of them
twice.
-/
namespace BlankLines

open Keyed (Distinct)

namespace Toml

/-- Every table has its keys in order, so that none stands twice. -/
inductive Value.Ordered : Value → Prop
  | string (text : String) : Ordered (.string text)
  | integer (n : Int) : Ordered (.integer n)
  | float (x : Binary64) : Ordered (.float x)
  | boolean (on : Bool) : Ordered (.boolean on)
  | dateTime (text : String) : Ordered (.dateTime text)
  | array {items : List Value} (each : ∀ item ∈ items, Ordered item) : Ordered (.array items)
  | table {entries : Table} (ascending : entries.Pairwise fun a b => a.1 < b.1)
      (each : ∀ entry ∈ entries, Ordered entry.2) : Ordered (.table entries)

/-- Sorting brings a table in order whose keys are distinct. -/
theorem Value.ordered_sorted {entries : Table} (distinct : Distinct entries)
    (each : ∀ entry ∈ entries, entry.2.Ordered) : (Value.table (Keyed.sorted entries)).Ordered :=
  .table (Keyed.pairwise_sorted distinct) fun entry member => each entry (Keyed.mem_sorted.mp member)

/-- In all tables of a node under construction the keys are distinct. -/
inductive Node.Apart : Node → Prop
  | scalar {value : Value} (ordered : value.Ordered) : Apart (.scalar value)
  | array {items : List Node} (each : ∀ item ∈ items, Apart item) : Apart (.array items)
  | inline {entries : Entries} (distinct : Distinct entries) (each : ∀ entry ∈ entries, Apart entry.2) :
    Apart (.inline entries)
  | table {origin : Origin} {entries : Entries} (distinct : Distinct entries)
      (each : ∀ entry ∈ entries, Apart entry.2) : Apart (.table origin entries)
  | tables {items : List Node} (each : ∀ item ∈ items, Apart item) : Apart (.tables items)

structure Entries.Apart (entries : Entries) : Prop where
  distinct : Distinct entries
  each : ∀ entry ∈ entries, entry.2.Apart

variable {entries result root : Entries} {key : String} {path current : List String} {text rest : List Char}
  {node : Node} {item : Scan Node}

namespace Entries

theorem apart_nil : Apart [] :=
  ⟨List.nodup_nil, fun _ member => absurd member List.not_mem_nil⟩

theorem Apart.table {origin : Origin} (apart : entries.Apart) : (Node.table origin entries).Apart :=
  .table apart.distinct apart.each

theorem Apart.of_get? (apart : entries.Apart) (found : Keyed.get? entries key = some node) : node.Apart :=
  apart.each _ (Keyed.mem_of_get? found)

theorem apart_of_table {origin : Origin} (apart : (Node.table origin entries).Apart) : entries.Apart := by
  cases apart with
  | table distinct each => exact ⟨distinct, each⟩

theorem Apart.put (apart : entries.Apart) (key : String) (new : node.Apart) :
    Apart (Keyed.put entries key node) := by
  refine ⟨apart.distinct.put key node, fun entry member => ?_⟩
  rw [Keyed.put] at member
  split at member
  · obtain ⟨old, held, rfl⟩ := List.mem_map.mp member
    dsimp only
    split
    · exact new
    · exact apart.each old held
  · rcases List.mem_append.mp member with held | last
    · exact apart.each entry held
    · rw [List.mem_singleton.mp last]
      exact new

theorem apart_update {points : Bool} {act : Origin → Entries → Option Entries} {origin : Origin}
    (keeps : ∀ {origin entries result}, act origin entries = some result →
      Apart entries → Apart result)
    (updated : update points act path origin entries = some result) (apart : entries.Apart) :
    result.Apart := by
  induction path generalizing origin entries result with
  | nil => exact keeps updated apart
  | cons key path ih =>
    -- What is done further down the path is put back under the first key.
    rw [update] at updated
    split at updated
    · obtain ⟨inner, made, same⟩ := Option.bind_eq_some_iff.mp updated
      cases same
      exact apart.put key (ih made apart_nil).table
    · next found =>
      split at updated
      · cases updated
      · obtain ⟨inner, changed, same⟩ := Option.bind_eq_some_iff.mp updated
        cases same
        exact apart.put key (ih changed (apart_of_table (apart.of_get? found))).table
    · next items found =>
      obtain _ | _ | _ | _ | each := apart.of_get? found
      split at updated
      · next last =>
        obtain ⟨inner, changed, same⟩ := Option.bind_eq_some_iff.mp updated
        cases same
        have table := each _ (List.mem_of_getLast? last)
        refine apart.put key (.tables (List.forall_mem_append.mpr ⟨fun item member => ?_, ?_⟩))
        · exact each item ((List.dropLast_sublist items).mem member)
        · exact List.forall_mem_singleton.mpr (ih changed (apart_of_table table)).table
      · cases updated
    · cases updated

theorem apart_insert {origin : Origin} (new : node.Apart)
    (inserted : insert path node origin entries = some result) (apart : entries.Apart) :
    result.Apart := by
  rw [insert] at inserted
  split at inserted
  · cases inserted
  · refine apart_update (fun put apart => ?_) inserted apart
    split at put
    · cases put
    · split at put
      · cases put
      · cases put
        exact apart.put _ new

theorem apart_openTable (opened : openTable key entries = some result) (apart : entries.Apart) :
    result.Apart := by
  rw [openTable] at opened
  split at opened
  · cases opened
    exact apart.put key apart_nil.table
  · next found =>
    cases opened
    refine ⟨apart.distinct.without_append _ _, List.forall_mem_append.mpr ⟨fun entry kept => ?_, ?_⟩⟩
    · exact apart.each entry (List.mem_of_mem_filter kept)
    · exact List.forall_mem_singleton.mpr (apart_of_table (apart.of_get? found)).table
  · cases opened

theorem apart_openItem (opened : openItem key entries = some result) (apart : entries.Apart) :
    result.Apart := by
  have fresh : (Node.table .stated []).Apart := apart_nil.table
  rw [openItem] at opened
  split at opened
  · cases opened
    exact apart.put key (.tables (List.forall_mem_singleton.mpr fresh))
  · next found =>
    cases opened
    obtain _ | _ | _ | _ | each := apart.of_get? found
    exact apart.put key (.tables (List.forall_mem_append.mpr
      ⟨each, List.forall_mem_singleton.mpr fresh⟩))
  · cases opened

end Entries

open Entries

theorem ordered_scalar {value : Value} (read : scalar text = some (value, rest)) : value.Ordered := by
  have date {text : List Char} (read : numberOrDate text = some (value, rest)) : value.Ordered := by
    rw [numberOrDate] at read
    split at read
    · cases read
      exact .dateTime _
    · split at read
      · cases read
        exact .float _
      · obtain ⟨⟨n, text⟩, _, same⟩ := Option.map_eq_some_iff.mp read
        cases same
        exact .integer n
  unfold scalar at read
  split at read
  · cases read
    exact .boolean true
  · cases read
    exact .boolean false
  · split at read
    · obtain ⟨⟨s, text⟩, _, same⟩ := Option.map_eq_some_iff.mp read
      cases same
      exact .string s
    · exact date read
  · cases read

theorem apart_scalar (read : (scalar text).map (fun (value, text) => (Node.scalar value, text)) =
    some (node, rest)) : node.Apart := by
  obtain ⟨⟨value, text⟩, here, same⟩ := Option.map_eq_some_iff.mp read
  cases same
  exact .scalar (ordered_scalar here)

theorem apart_arrayTail {bound : Nat} {done : List Node}
    (reads : ∀ {text node rest}, item text = some (node, rest) → node.Apart)
    (read : arrayTail item bound done text = some (node, rest)) (before : ∀ node ∈ done, node.Apart) :
    node.Apart := by
  induction bound generalizing done text with
  | zero => cases read
  | succ bound ih =>
    rw [arrayTail] at read
    split at read
    · cases read
      exact .array fun node member => before node (List.mem_reverse.mp member)
    · obtain ⟨⟨value, text⟩, here, read⟩ := Option.bind_eq_some_iff.mp read
      have before : ∀ node ∈ value :: done, node.Apart := List.forall_mem_cons.mpr ⟨reads here, before⟩
      dsimp only at read
      split at read
      · exact ih read before
      · cases read
        exact .array fun node member => before node (List.mem_reverse.mp member)
      · cases read

theorem apart_pair (reads : ∀ {text node rest}, item text = some (node, rest) → node.Apart)
    (read : pair item text = some ((path, node), rest)) : node.Apart := by
  obtain ⟨⟨path, text⟩, _, read⟩ := Option.bind_eq_some_iff.mp read
  dsimp only at read
  split at read
  · obtain ⟨⟨value, text⟩, here, read⟩ := Option.bind_eq_some_iff.mp read
    cases read
    exact reads here
  · cases read

theorem apart_inlineTail {bound : Nat}
    (reads : ∀ {text node rest}, item text = some (node, rest) → node.Apart)
    (read : inlineTail item bound entries text = some (node, rest)) (apart : entries.Apart) :
    node.Apart := by
  induction bound generalizing entries text with
  | zero => cases read
  | succ bound ih =>
    obtain ⟨⟨⟨path, value⟩, text⟩, here, read⟩ := Option.bind_eq_some_iff.mp read
    obtain ⟨next, inserted, read⟩ := Option.bind_eq_some_iff.mp read
    have apart := apart_insert (apart_pair reads here) inserted apart
    split at read
    · exact ih read apart
    · cases read
      exact .inline apart.distinct apart.each
    · cases read

theorem apart_value {depth : Nat} (read : value depth text = some (node, rest)) : node.Apart := by
  induction depth generalizing node text rest with
  | zero => exact apart_scalar read
  | succ depth ih =>
    unfold value at read
    split at read
    · exact apart_arrayTail ih read fun _ member => absurd member List.not_mem_nil
    · split at read
      · cases read
        exact .inline apart_nil.distinct apart_nil.each
      · exact apart_inlineTail ih read apart_nil
    · exact apart_scalar read

theorem apart_openHeader {repeated : Bool} (opened : openHeader repeated path root = some result)
    (apart : root.Apart) : result.Apart := by
  obtain ⟨name, _, updated⟩ := Option.bind_eq_some_iff.mp opened
  refine apart_update (fun act apart => ?_) updated apart
  split at act
  · exact apart_openItem act apart
  · exact apart_openTable act apart

/-- Every line of a document keeps the keys apart. -/
theorem apart_documentLines {bound : Nat} (read : documentLines bound current root text = some result)
    (apart : root.Apart) : result.Apart := by
  induction bound generalizing current root text with
  | zero => cases read
  | succ bound ih =>
    rw [documentLines] at read
    split at read
    · cases read
      exact apart
    · obtain ⟨⟨⟨repeated, path⟩, text⟩, _, read⟩ := Option.bind_eq_some_iff.mp read
      obtain ⟨next, opened, read⟩ := Option.bind_eq_some_iff.mp read
      obtain ⟨text, _, read⟩ := Option.bind_eq_some_iff.mp read
      exact ih read (apart_openHeader opened apart)
    · obtain ⟨⟨⟨path, value⟩, text⟩, here, read⟩ := Option.bind_eq_some_iff.mp read
      obtain ⟨next, updated, read⟩ := Option.bind_eq_some_iff.mp read
      obtain ⟨text, _, read⟩ := Option.bind_eq_some_iff.mp read
      exact ih read (apart_update (apart_insert (apart_pair apart_value here)) updated apart)

namespace Node

theorem keys_toEntries? {values : List (String × Value)} (made : toEntries? entries = some values) :
    values.map (·.1) = entries.map (·.1) := by
  induction entries generalizing values with
  | nil =>
    cases made
    rfl
  | cons entry entries ih =>
    obtain ⟨value, _, made⟩ := Option.bind_eq_some_iff.mp made
    obtain ⟨rest, later, same⟩ := Option.bind_eq_some_iff.mp made
    cases same
    rw [List.map_cons, List.map_cons, ih later]

theorem forall_toEntries? {values : List (String × Value)} {p : Value → Prop}
    (each : ∀ entry ∈ entries, ∀ value, toValue? entry.2 = some value → p value)
    (made : toEntries? entries = some values) : ∀ entry ∈ values, p entry.2 := by
  induction entries generalizing values with
  | nil =>
    cases made
    exact fun _ member => absurd member List.not_mem_nil
  | cons entry entries ih =>
    obtain ⟨first, others⟩ := List.forall_mem_cons.mp each
    obtain ⟨value, here, made⟩ := Option.bind_eq_some_iff.mp made
    obtain ⟨rest, later, same⟩ := Option.bind_eq_some_iff.mp made
    cases same
    exact List.forall_mem_cons.mpr ⟨first value here, ih others later⟩

theorem forall_toItems? {items : List Node} {values : List Value} {p : Value → Prop}
    (each : ∀ item ∈ items, ∀ value, toValue? item = some value → p value)
    (made : toItems? items = some values) : ∀ value ∈ values, p value := by
  induction items generalizing values with
  | nil =>
    cases made
    exact fun _ member => absurd member List.not_mem_nil
  | cons item items ih =>
    obtain ⟨first, others⟩ := List.forall_mem_cons.mp each
    obtain ⟨value, here, made⟩ := Option.bind_eq_some_iff.mp made
    obtain ⟨rest, later, same⟩ := Option.bind_eq_some_iff.mp made
    cases same
    exact List.forall_mem_cons.mpr ⟨first value here, ih others later⟩

theorem ordered_toTable? {made : Value} (distinct : Distinct entries)
    (each : ∀ entry ∈ entries, ∀ value, toValue? entry.2 = some value → value.Ordered)
    (becomes : toTable? entries = some made) : made.Ordered := by
  unfold toTable? at becomes
  split at becomes
  · cases becomes
    exact .table .nil fun _ member => absurd member List.not_mem_nil
  · split at becomes
    · unfold standIn? at becomes
      split at becomes
      · obtain ⟨date, _, rfl⟩ := Option.map_eq_some_iff.mp becomes
        exact .dateTime date
      · cases becomes
    · next key node entries _ =>
      obtain ⟨value, here, becomes⟩ := Option.bind_eq_some_iff.mp becomes
      obtain ⟨rest, later, same⟩ := Option.bind_eq_some_iff.mp becomes
      cases same
      have entries : toEntries? ((key, node) :: entries) = some ((key, value) :: rest) := by
        rw [toEntries?, here, later]
        rfl
      refine Value.ordered_sorted ?_ (forall_toEntries? each entries)
      rw [Distinct, keys_toEntries? entries]
      exact distinct

theorem Apart.ordered {made : Value} (apart : node.Apart) (becomes : toValue? node = some made) :
    made.Ordered := by
  induction apart generalizing made with
  | scalar ordered =>
    cases becomes
    exact ordered
  | array each ih =>
    obtain ⟨values, items, rfl⟩ := Option.map_eq_some_iff.mp becomes
    exact .array (forall_toItems? (fun item member value => ih item member) items)
  | tables each ih =>
    obtain ⟨values, items, rfl⟩ := Option.map_eq_some_iff.mp becomes
    exact .array (forall_toItems? (fun item member value => ih item member) items)
  | inline distinct each ih =>
    exact ordered_toTable? distinct (fun entry member value => ih entry member) becomes
  | table distinct each ih =>
    exact ordered_toTable? distinct (fun entry member value => ih entry member) becomes

end Node

theorem ordered_parse {text : String} {table : Table} (parsed : parse text = some table) :
    (Value.table table).Ordered := by
  obtain ⟨root, read, made⟩ := Option.bind_eq_some_iff.mp parsed
  obtain ⟨values, entries, same⟩ := Option.bind_eq_some_iff.mp made
  cases same
  have apart : root.Apart := apart_documentLines read apart_nil
  refine Value.ordered_sorted ?_ (Node.forall_toEntries? (fun entry member value => ?_) entries)
  · rw [Distinct, Node.keys_toEntries? entries]
    exact apart.distinct
  · exact (apart.each entry member).ordered

end Toml

namespace Config

variable {tree : FileTree} {base path : Path} {table resolved : Toml.Table}

/-- Includes change values only. -/
theorem keys_resolveIncludes (resolves : resolveIncludes tree base table = .ok resolved) :
    resolved.map (·.1) = table.map (·.1) := by
  rw [resolveIncludes] at resolves
  induction table generalizing resolved with
  | nil =>
    cases resolves
    rfl
  | cons entry table ih =>
    rw [List.mapM_cons] at resolves
    obtain ⟨first, here, resolves⟩ := bind_eq_ok_iff.mp resolves
    obtain ⟨rest, later, same⟩ := bind_eq_ok_iff.mp resolves
    cases same
    obtain ⟨value, _, same⟩ := bind_eq_ok_iff.mp here
    cases same
    rw [List.map_cons, List.map_cons, ih later]

theorem ordered_resolveInclude {key : String} {value result : Toml.Value} (ordered : value.Ordered)
    (resolves : resolveInclude tree base key value = .ok result) : result.Ordered := by
  rw [resolveInclude] at resolves
  split at resolves
  · cases resolves
    exact ordered
  · dsimp only at resolves
    split at resolves
    · cases resolves
    · split at resolves
      · next parsed =>
        cases resolves
        exact Toml.ordered_parse parsed
      · cases resolves

theorem forall_resolveIncludes (each : ∀ entry ∈ table, entry.2.Ordered)
    (resolves : resolveIncludes tree base table = .ok resolved) : ∀ entry ∈ resolved, entry.2.Ordered := by
  rw [resolveIncludes] at resolves
  induction table generalizing resolved with
  | nil =>
    cases resolves
    exact fun _ member => absurd member List.not_mem_nil
  | cons entry table ih =>
    obtain ⟨first, others⟩ := List.forall_mem_cons.mp each
    rw [List.mapM_cons] at resolves
    obtain ⟨_, here, resolves⟩ := bind_eq_ok_iff.mp resolves
    obtain ⟨rest, later, same⟩ := bind_eq_ok_iff.mp resolves
    cases same
    obtain ⟨value, included, same⟩ := bind_eq_ok_iff.mp here
    cases same
    exact List.forall_mem_cons.mpr ⟨ordered_resolveInclude first included, ih others later⟩

theorem ordered_resolveIncludes (ordered : (Toml.Value.table table).Ordered)
    (resolves : resolveIncludes tree base table = .ok resolved) :
    (Toml.Value.table resolved).Ordered := by
  cases ordered with
  | table ascending each =>
    refine .table ?_ (forall_resolveIncludes each resolves)
    rwa [← List.pairwise_map, keys_resolveIncludes resolves, List.pairwise_map]

/-- The table that a configuration file is taken from has its keys in order. -/
theorem exists_table_of_load {config : Config} (loads : load tree path = .ok config) :
    ∃ base table, path.parent? = some base ∧ (Toml.Value.table table).Ordered ∧
      ofValue base (.table table) = .ok config := by
  rw [load] at loads
  split at loads
  · cases loads
  · next base parent =>
    split at loads
    · cases loads
    · split at loads
      · cases loads
      · next parsed =>
        obtain ⟨table, resolves, loads⟩ := bind_eq_ok_iff.mp loads
        exact ⟨base, table, parent, ordered_resolveIncludes (Toml.ordered_parse parsed) resolves, loads⟩

end Config

end BlankLines
