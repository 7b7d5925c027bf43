import BlankLines.Linter.Directory
import BlankLines.Proofs.FileTree.Following

/-!
Linting what is under a path. A walk picks every dump once, in the order of the paths, and the first one
that does not load decides.
-/
namespace BlankLines

open FileTree (IsName WellNamed)

/-- Every directory at and under a node can be read at its path. -/
inductive FileTree.Readable : Path → FileTree → Prop
  | file (path : Path) (bytes : ByteArray) : Readable path (.file bytes)
  | directory {path : Path} {entries : List (String × FileTree)} (short : isTooLong path = false)
      (inner : ∀ entry ∈ entries, Readable (path.join ⟨entry.1⟩) entry.2) :
      Readable path (.directory entries)

/-- The file at a path by the bytes there: the path can be opened, the bytes are text, and the text is a
dump. -/
def TokenFile.ofBytes (path : Path) (bytes : ByteArray) : Except LoadError TokenFile :=
  if FileTree.isTooLong path then .error (.unreadable path .nameTooLong)
  else do
    let text ← (FileTree.textOf bytes).mapError (.unreadable path)
    (ofDump text).mapError (.refused path)

theorem TokenFile.ofBytes_toUTF8 {path : Path} {text : String} {file : TokenFile}
    (short : FileTree.isTooLong path = false) (dump : ofDump text = .ok file) :
    ofBytes path text.toUTF8 = .ok file := by
  rw [ofBytes, short, if_neg Bool.false_ne_true, FileTree.textOf_toUTF8]
  exact congrArg (Except.mapError (LoadError.refused path)) dump

theorem TokenFile.load_below {root node : FileTree} {path : Path} {names : List String}
    {bytes : ByteArray} (found : root.locate path = .ok node) (named : ∀ name ∈ names, IsName name)
    (below : node.find? names = some (.file bytes)) :
    load root (path.below names) = ofBytes (path.below names) bytes := by
  rw [load, FileTree.readText_below found named below, ofBytes]
  cases FileTree.isTooLong (path.below names) with
  | true => rfl
  | false =>
    cases FileTree.textOf bytes with
    | error fault => rfl
    | ok text =>
      simp only [Bool.false_eq_true, if_false, Except.mapError, bind, Except.bind]
      cases ofDump text <;> rfl

/-- A name with something before the extension of dumps. -/
def IsDump (name : String) : Prop :=
  ∃ stem, stem ≠ [] ∧ name.toList = stem ++ ".json".toList

namespace Config

/-- A file under a node is to be linted: it is named like a dump unless it is the node itself, and
nothing on the way to it is ignored. -/
structure Picks (config : Config) (current path : Path) (node : FileTree) (names : List String) : Prop where
  file : ∃ bytes, node.find? names = some (.file bytes)
  dump : ∀ name, names.getLast? = some name → IsDump name
  shown : ∀ way, way <+: names → config.isIgnored current (path.below way) = false

variable {config : Config} {current path visited : Path} {node : FileTree} {name : String}
  {names : List String} {entries : List (String × FileTree)}

theorem Picks.eq_file (picks : config.Picks current path node []) : ∃ bytes, node = .file bytes := by
  obtain ⟨bytes, found⟩ := picks.file
  exact ⟨bytes, Option.some.inj ((FileTree.find?_nil node).symm.trans found)⟩

/-- Under a file there is nothing but the file itself. -/
theorem picks_file_iff {bytes : ByteArray} : config.Picks current path (.file bytes) names ↔
    names = [] ∧ config.isIgnored current path = false := by
  constructor
  · rintro ⟨⟨_, found⟩, _, shown⟩
    cases names with
    | nil => exact ⟨rfl, shown [] List.nil_prefix⟩
    | cons name names => cases found
  · rintro ⟨rfl, shown⟩
    refine ⟨⟨bytes, FileTree.find?_nil _⟩, fun name last => absurd last nofun, fun way ahead => ?_⟩
    rw [List.prefix_nil.mp ahead]
    exact shown

/-- What is picked under a directory is picked under one of its entries. -/
theorem picks_cons_iff : config.Picks current path (.directory entries) (name :: names) ↔
    config.isIgnored current path = false ∧ ∃ node, Keyed.get? entries name = some node ∧
      (names = [] → IsDump name) ∧ config.Picks current (path.join ⟨name⟩) node names := by
  constructor
  · rintro ⟨⟨bytes, found⟩, dump, shown⟩
    rw [FileTree.find?_directory] at found
    obtain ⟨node, entry, found⟩ := Option.bind_eq_some_iff.mp found
    refine ⟨shown [] List.nil_prefix, node, entry, fun none => ?_, ⟨bytes, found⟩, ?_, ?_⟩
    · rw [none] at dump
      exact dump name rfl
    · intro last ends
      exact dump last (by rw [List.getLast?_cons, ends]; rfl)
    · intro way ahead
      exact shown (name :: way) (List.cons_prefix_cons.mpr ⟨rfl, ahead⟩)
  · rintro ⟨here, node, entry, named, ⟨bytes, found⟩, dump, shown⟩
    refine ⟨⟨bytes, ?_⟩, fun last ends => ?_, fun way ahead => ?_⟩
    · rw [FileTree.find?_directory, entry]
      exact found
    · cases names with
      | nil =>
        obtain rfl := Option.some.inj ends
        exact named rfl
      | cons next names => exact dump last (by rwa [List.getLast?_cons_cons] at ends)
    · cases way with
      | nil => exact here
      | cons first way =>
        obtain ⟨rfl, later⟩ := List.cons_prefix_cons.mp ahead
        exact shown way later

/-- The paths that a walk picks at an entry of a directory. -/
def walkEntry (config : Config) (current path : Path) (entry : String × FileTree) : List Path :=
  if isCandidate (path.join ⟨entry.1⟩) entry.1 entry.2 then
    walk config current (path.join ⟨entry.1⟩) entry.2
  else []

theorem walkEntries_eq (entries : List (String × FileTree)) :
    walkEntries config current path entries =
      entries.map fun entry => (entry.1, walkEntry config current path entry) := by
  induction entries with
  | nil => rw [walkEntries, List.map_nil]
  | cons entry entries ih => rw [walkEntries, ih, List.map_cons, walkEntry]

theorem mem_sorted_walkEntries_iff {pair : String × List Path} :
    pair ∈ Keyed.sorted (walkEntries config current path entries) ↔
      ∃ entry ∈ entries, (entry.1, walkEntry config current path entry) = pair := by
  rw [Keyed.mem_sorted, walkEntries_eq, List.mem_map]

theorem distinct_walkEntries (distinct : Keyed.Distinct entries) :
    Keyed.Distinct (walkEntries config current path entries) := by
  rw [Keyed.Distinct, walkEntries_eq, List.map_map]
  exact distinct

theorem walk_directory (short : FileTree.isTooLong path = false) :
    walk config current path (.directory entries) = if config.isIgnored current path then [] else
      (Keyed.sorted (walkEntries config current path entries)).flatMap (·.2) := by
  rw [walk, short, if_neg (c := false = true) Bool.false_ne_true]

theorem isDump_iff : IsDump name ↔ Path.extension? name = some dumpExtension := by
  have dotless : '.' ∉ dumpExtension.toList := by decide
  exact (Path.extension?_eq_some_iff dotless (by decide)).symm

/-- The walk of an entry leaves out nothing but files that are not named like dumps. -/
theorem mem_walkEntry_iff (readable : node.Readable (path.join ⟨name⟩)) :
    visited ∈ walkEntry config current path (name, node) ↔
      ((∃ bytes, node = .file bytes) → IsDump name) ∧
        visited ∈ walk config current (path.join ⟨name⟩) node := by
  rw [walkEntry, List.mem_ite_nil_right, isCandidate, isDump_iff]
  refine and_congr_left fun _ => ?_
  cases readable with
  | file bytes => simp [canEnter]
  | directory short => simp [canEnter, short]

theorem mem_walk_directory_iff (short : FileTree.isTooLong path = false) :
    visited ∈ walk config current path (.directory entries) ↔ config.isIgnored current path = false ∧
      ∃ entry ∈ entries, visited ∈ walkEntry config current path entry := by
  rw [walk_directory short, List.mem_ite_nil_left, Bool.not_eq_true, List.mem_flatMap]
  refine and_congr_right fun _ => ⟨?_, ?_⟩
  · rintro ⟨pair, sorted, member⟩
    obtain ⟨entry, held, rfl⟩ := mem_sorted_walkEntries_iff.mp sorted
    exact ⟨entry, held, member⟩
  · rintro ⟨entry, held, member⟩
    exact ⟨_, mem_sorted_walkEntries_iff.mpr ⟨entry, held, rfl⟩, member⟩

/-- A walk picks the files that it should, and these only. -/
theorem mem_walk_iff (wellNamed : node.WellNamed) (readable : node.Readable path) :
    visited ∈ config.walk current path node ↔
      ∃ names, config.Picks current path node names ∧ visited = path.below names := by
  induction wellNamed generalizing path with
  | file bytes =>
    rw [walk, List.mem_ite_nil_left, List.mem_singleton, Bool.not_eq_true]
    constructor
    · rintro ⟨shown, rfl⟩
      exact ⟨[], picks_file_iff.mpr ⟨rfl, shown⟩, rfl⟩
    · rintro ⟨names, picks, rfl⟩
      obtain ⟨rfl, shown⟩ := picks_file_iff.mp picks
      exact ⟨shown, rfl⟩
  | @directory entries distinct named wellNamed ih =>
    cases readable with
    | directory short readable =>
      rw [mem_walk_directory_iff short]
      constructor
      · rintro ⟨shown, ⟨name, node⟩, held, member⟩
        obtain ⟨dump, member⟩ := (mem_walkEntry_iff (readable _ held)).mp member
        obtain ⟨names, picks, rfl⟩ := (ih _ held (readable _ held)).mp member
        refine ⟨name :: names, picks_cons_iff.mpr ⟨shown, node, ?_, fun none => ?_, picks⟩, rfl⟩
        · exact distinct.get?_eq_some_iff.mpr held
        · subst none
          exact dump picks.eq_file
      · rintro ⟨names, picks, rfl⟩
        cases names with
        | nil => exact absurd picks.eq_file nofun
        | cons name names =>
          obtain ⟨shown, node, entry, dump, picks⟩ := picks_cons_iff.mp picks
          have held := Keyed.mem_of_get? entry
          refine ⟨shown, (name, node), held, (mem_walkEntry_iff (readable _ held)).mpr ⟨?_, ?_⟩⟩
          · rintro ⟨bytes, rfl⟩
            exact dump (picks_file_iff.mp picks).1
          · exact (ih _ held (readable _ held)).mpr ⟨names, picks, rfl⟩

/-- What a walk picks below an entry has the name of the entry behind the path. -/
theorem exists_below_of_mem_walkEntry {entry : String × FileTree} (wellNamed : entry.2.WellNamed)
    (readable : entry.2.Readable (path.join ⟨entry.1⟩))
    (member : visited ∈ walkEntry config current path entry) :
    ∃ names, (∀ name ∈ names, IsName name) ∧ visited = path.below (entry.1 :: names) := by
  obtain ⟨_, member⟩ := (mem_walkEntry_iff readable).mp member
  obtain ⟨names, picks, rfl⟩ := (mem_walk_iff wellNamed readable).mp member
  obtain ⟨bytes, found⟩ := picks.file
  exact ⟨names, wellNamed.of_find? found, rfl⟩

/-- A walk is in the order of the paths. -/
theorem pairwise_walk (nonempty : path.text ≠ "") (wellNamed : node.WellNamed)
    (readable : node.Readable path) : (walk config current path node).Pairwise Path.Before := by
  induction wellNamed generalizing path with
  | file bytes =>
    rw [walk]
    split
    · exact .nil
    · exact List.pairwise_singleton _ _
  | @directory entries distinct named wellNamed ih =>
    cases readable with
    | directory short readable =>
      have inner : ∀ entry ∈ entries, (walkEntry config current path entry).Pairwise Path.Before := by
        intro entry held
        rw [walkEntry]
        split
        · exact ih entry held (Path.text_join_ne nonempty (named entry held)) (readable entry held)
        · exact .nil
      rw [walk_directory short]
      split
      · exact .nil
      · refine List.pairwise_flatMap.mpr ⟨?_, ?_⟩
        · intro pair sorted
          obtain ⟨entry, held, rfl⟩ := mem_sorted_walkEntries_iff.mp sorted
          exact inner entry held
        · refine (Keyed.pairwise_sorted (distinct_walkEntries distinct)).imp_of_mem ?_
          intro pair pair' sorted sorted' less first member second member'
          obtain ⟨entry, held, rfl⟩ := mem_sorted_walkEntries_iff.mp sorted
          obtain ⟨entry', held', rfl⟩ := mem_sorted_walkEntries_iff.mp sorted'
          obtain ⟨names, parts, rfl⟩ :=
            exists_below_of_mem_walkEntry (wellNamed _ held) (readable _ held) member
          obtain ⟨names', parts', rfl⟩ :=
            exists_below_of_mem_walkEntry (wellNamed _ held') (readable _ held') member'
          exact Path.before_below nonempty less (List.forall_mem_cons.mpr ⟨named _ held, parts⟩)
            (List.forall_mem_cons.mpr ⟨named _ held', parts'⟩)

end Config

namespace Linter

/-- What is reported on a file at a path. -/
def report (linter : Linter) (path : Path) (file : TokenFile) : FileReport where
  path := path.text
  violations := linter.lint file

variable {linter : Linter} {tree : FileTree} {path : Path}

theorem lintFile_eq_ok_iff {result : FileReport} : linter.lintFile tree path = .ok result ↔
    ∃ file, TokenFile.load tree path = .ok file ∧ linter.report path file = result := by
  rw [lintFile, bind_eq_ok_iff]
  exact exists_congr fun file => and_congr_right fun _ => ⟨Except.ok.inj, congrArg Except.ok⟩

theorem lintFile_eq_error_iff {fault : LoadError} :
    linter.lintFile tree path = .error fault ↔ TokenFile.load tree path = .error fault := by
  rw [lintFile]
  cases TokenFile.load tree path <;> simp [bind, Except.bind, pure, Except.pure]

theorem exists_files {visited : List Path} {results : List FileReport}
    (linted : visited.Forall₂ (fun path result => linter.lintFile tree path = .ok result) results) :
    ∃ files, visited.Forall₂ (fun path file => TokenFile.load tree path = .ok file) files ∧
      results = visited.zipWith linter.report files := by
  induction linted with
  | nil => exact ⟨[], .nil, rfl⟩
  | cons first _ ih =>
    obtain ⟨file, loaded, rfl⟩ := lintFile_eq_ok_iff.mp first
    obtain ⟨files, each, rfl⟩ := ih
    exact ⟨file :: files, .cons loaded each, rfl⟩

/-- Linting a path goes through the files that are to be linted, each once and in the order of their
paths. It ends with a report on each of them, or with the fault of the first one that does not load. -/
theorem lintPath_located (linter : Linter) (config : Config) (tree : FileTree) (current target : Path)
    (node : FileTree) (found : tree.locate target = .ok node) (wellNamed : node.WellNamed)
    (readable : node.Readable target) :
    ∃ visited : List Path,
      (∀ path, path ∈ visited ↔
        ∃ names, config.Picks current target node names ∧ path = target.below names) ∧
      visited.Pairwise Path.Before ∧
      (∀ names bytes, node.find? names = some (.file bytes) →
        TokenFile.load tree (target.below names) = TokenFile.ofBytes (target.below names) bytes) ∧
      ((∃ files, visited.Forall₂ (fun path file => TokenFile.load tree path = .ok file) files ∧
          linter.lintPath config tree current target = .ok (visited.zipWith linter.report files)) ∨
        ∃ before path after fault, visited = before ++ path :: after ∧
          (∀ earlier ∈ before, ∃ file, TokenFile.load tree earlier = .ok file) ∧
          TokenFile.load tree path = .error fault ∧
          linter.lintPath config tree current target = .error fault) := by
  obtain ⟨_, _, nonempty⟩ := FileTree.checked_of_locate found
  have walked : linter.lintPath config tree current target =
      (config.walk current target node).mapM (linter.lintFile tree) := by
    rw [lintPath, found]
  refine ⟨config.walk current target node, fun path => Config.mem_walk_iff wellNamed readable,
    Config.pairwise_walk nonempty wellNamed readable, fun names bytes below => ?_, ?_⟩
  · exact TokenFile.load_below found (wellNamed.of_find? below) below
  · rw [walked]
    generalize config.walk current target node = visited
    rcases mapM_ok_or_first_error (linter.lintFile tree) visited with
      ⟨reports, succeeds, each⟩ | ⟨before, path, after, fault, split, fine, fails, all⟩
    · obtain ⟨files, loaded, rfl⟩ := exists_files each
      exact .inl ⟨files, loaded, succeeds⟩
    · have faulty := lintFile_eq_error_iff.mp fails
      refine .inr ⟨before, path, after, fault, split, fun earlier member => ?_, faulty, all⟩
      obtain ⟨result, linted⟩ := fine earlier member
      obtain ⟨file, loaded, _⟩ := lintFile_eq_ok_iff.mp linted
      exact ⟨file, loaded⟩

open FileTree Config

/-- A file with the text of a dump. -/
def dumpOf (text : String) : FileTree :=
  .file text.toUTF8

def emptyText : String :=
  "\x7b\"tokens\":[]\x7d"

def bareText : String :=
  "\x7b\"tokens\":[[\"class\",1,\"class\",1,2],[\"open_curly_bracket\",1,\"\x7b\"]," ++
    "[\"close_curly_bracket\",1,\"\x7d\"]]\x7d"

/-- A class with nothing between its braces. -/
def bareClass : TokenFile where
  tokens := [
    { kind := .classDecl, line := 1, content := "class", scopeOpener := some 1, scopeCloser := some 2 },
    { kind := .openBrace, line := 1, content := "\x7b" },
    { kind := .closeBrace, line := 1, content := "\x7d" }]

/-- Two dumps, an ignored one, and a file that is none by its name. -/
def nestedDumps : FileTree :=
  .directory [("y.json", dumpOf emptyText), ("skip.json", dumpOf bareText),
    ("x.json", .directory [(".json", dumpOf bareText), ("m.json", dumpOf bareText)])]

def withoutSkip : Config :=
  { ignored := ["/skip.json".toList.map .char] }

theorem picks_nestedDumps_iff {names : List String} :
    withoutSkip.Picks ⟨"/"⟩ ⟨"/"⟩ nestedDumps names ↔
      names = ["x.json", "m.json"] ∨ names = ["y.json"] := by
  have hidden : ¬ IsDump ".json" := isDump_iff.not.mpr (by decide)
  constructor
  · intro picks
    cases names with
    | nil => exact absurd picks.eq_file nofun
    | cons name names =>
      obtain ⟨_, node, entry, _, picks⟩ := picks_cons_iff.mp picks
      have held := Keyed.mem_of_get? entry
      simp only [List.mem_cons, Prod.mk.injEq, List.not_mem_nil, or_false] at held
      rcases held with ⟨rfl, rfl⟩ | ⟨rfl, rfl⟩ | ⟨rfl, rfl⟩
      · rw [(picks_file_iff.mp picks).1]
        exact .inr rfl
      · exact absurd (picks_file_iff.mp picks).2 (by decide +kernel)
      · cases names with
        | nil => exact absurd picks.eq_file nofun
        | cons name names =>
          obtain ⟨_, node, entry, dump, picks⟩ := picks_cons_iff.mp picks
          have held := Keyed.mem_of_get? entry
          simp only [List.mem_cons, Prod.mk.injEq, List.not_mem_nil, or_false] at held
          rcases held with ⟨rfl, rfl⟩ | ⟨rfl, rfl⟩
          · exact absurd (dump (picks_file_iff.mp picks).1) hidden
          · rw [(picks_file_iff.mp picks).1]
            exact .inl rfl
  · rintro (rfl | rfl)
    · refine picks_cons_iff.mpr ⟨by decide, _, rfl, nofun, ?_⟩
      refine picks_cons_iff.mpr ⟨by decide, _, rfl, fun _ => ?_, ?_⟩
      · exact isDump_iff.mpr (by decide)
      · exact picks_file_iff.mpr ⟨rfl, by decide⟩
    · refine picks_cons_iff.mpr ⟨by decide, _, rfl, fun _ => isDump_iff.mpr (by decide), ?_⟩
      exact picks_file_iff.mpr ⟨rfl, by decide⟩

/-- The linter that wants no line without text at braces. -/
def denseLinter : Linter :=
  ⟨[(.braceSpacing 0 0, .error)]⟩

/-- Of the two dumps, the first in order has faults at both braces. -/
theorem lintPath_located_nestedDumps :
    nestedDumps.locate ⟨"/"⟩ = .ok nestedDumps ∧ nestedDumps.WellNamed ∧ nestedDumps.Readable ⟨"/"⟩ ∧
      denseLinter.lintPath withoutSkip nestedDumps ⟨"/"⟩ ⟨"/"⟩ =
        .ok [⟨"/x.json/m.json", denseLinter.lint bareClass⟩, ⟨"/y.json", []⟩] ∧
      (denseLinter.lint bareClass).map (·.code) =
        [BraceSpacing.openingCode, BraceSpacing.closingCode] := by
  have found : nestedDumps.locate ⟨"/"⟩ = .ok nestedDumps :=
    locate_eq_ok_iff.mpr ⟨[], checkPath_eq_ok_iff.mpr (by decide), rfl, rfl⟩
  have wellNamed : nestedDumps.WellNamed := by
    refine .directory (by decide) (by decide) ?_
    simp only [List.forall_mem_cons]
    refine ⟨.file _, .file _, .directory (by decide) (by decide) ?_, nofun⟩
    simp only [List.forall_mem_cons]
    exact ⟨.file _, .file _, nofun⟩
  have readable : nestedDumps.Readable ⟨"/"⟩ := by
    refine .directory (by decide) ?_
    simp only [List.forall_mem_cons]
    refine ⟨.file _ _, .file _ _, .directory (by decide) ?_, nofun⟩
    simp only [List.forall_mem_cons]
    exact ⟨.file _ _, .file _ _, nofun⟩
  refine ⟨found, wellNamed, readable, ?_, by decide +kernel⟩
  obtain ⟨visited, members, ordered, loaded, outcome⟩ := lintPath_located denseLinter withoutSkip
    nestedDumps ⟨"/"⟩ ⟨"/"⟩ nestedDumps found wellNamed readable
  obtain rfl : visited = [⟨"/x.json/m.json"⟩, ⟨"/y.json"⟩] := by
    refine Path.eq_of_pairwise_before (fun path => (members path).trans ?_) ordered (by decide)
    constructor
    · rintro ⟨names, picks, rfl⟩
      rcases picks_nestedDumps_iff.mp picks with rfl | rfl <;> decide
    · intro member
      rcases List.mem_pair.mp member with rfl | rfl
      · exact ⟨["x.json", "m.json"], picks_nestedDumps_iff.mpr (.inl rfl), rfl⟩
      · exact ⟨["y.json"], picks_nestedDumps_iff.mpr (.inr rfl), rfl⟩
  have bareDump : TokenFile.ofDump bareText = .ok bareClass := by decide +kernel
  have emptyDump : TokenFile.ofDump emptyText = .ok { tokens := [] } := by decide +kernel
  have bare := (loaded ["x.json", "m.json"] _ rfl).trans (TokenFile.ofBytes_toUTF8 (by decide) bareDump)
  have empty := (loaded ["y.json"] _ rfl).trans (TokenFile.ofBytes_toUTF8 (by decide) emptyDump)
  rcases outcome with ⟨files, each, reports⟩ | ⟨before, path, after, fault, split, _, fails, _⟩
  · rw [reports]
    obtain ⟨file, _, first, rest, rfl⟩ := List.forall₂_cons_left_iff.mp each
    obtain ⟨file', _, second, none, rfl⟩ := List.forall₂_cons_left_iff.mp rest
    obtain rfl := List.forall₂_nil_left_iff.mp none
    obtain rfl := Except.ok.inj (bare.symm.trans first)
    obtain rfl := Except.ok.inj (empty.symm.trans second)
    rfl
  · have member : path ∈ [⟨"/x.json/m.json"⟩, ⟨"/y.json"⟩] := by simp [split]
    rcases List.mem_pair.mp member with rfl | rfl
    · exact absurd (bare.symm.trans fails) nofun
    · exact absurd (empty.symm.trans fails) nofun

end Linter

end BlankLines
