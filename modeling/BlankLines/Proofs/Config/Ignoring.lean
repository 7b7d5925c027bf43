import BlankLines.Proofs.Config.Acceptance
import BlankLines.Proofs.FileTree.Names
import BlankLines.Proofs.Glob

/-!
Ignored paths. An entry of the ignore list is joined to a directory, and what comes of that is read as a
pattern, with the directory in it. Where the directory has characters of patterns in its name, or is
relative, the pattern need not mean what is in that directory.
-/
namespace BlankLines

namespace Path

variable {base dir path other : Path}

/-- How the paths in a directory begin. -/
def opening (base : Path) : List Char :=
  (base.join ⟨""⟩).text.toList

/-- A path of one name or several, none of which is empty or points to another place. -/
def IsPlain (path : Path) : Prop :=
  ∀ part ∈ path.parts, part ≠ "" ∧ part ≠ "." ∧ part ≠ ".."

instance (path : Path) : Decidable path.IsPlain :=
  inferInstanceAs (Decidable (∀ part ∈ path.parts, part ≠ "" ∧ part ≠ "." ∧ part ≠ ".."))

/-- A path without characters that mean more than themselves in a pattern. -/
def IsTame (path : Path) : Prop :=
  ∀ c ∈ path.text.toList, ¬ Glob.IsWild c

-- Without the list instance all characters that there are would be gone through.
instance (path : Path) : Decidable path.IsTame :=
  List.decidableBAll _ path.text.toList

theorem isAbsolute_iff : path.isAbsolute = true ↔ path.text.toList.head? = some '/' :=
  decide_eq_true_iff

theorem join_of_absolute (absolute : path.isAbsolute = true) : base.join path = path :=
  if_pos absolute

theorem toList_join (relative : path.isAbsolute = false) :
    (base.join path).text.toList = base.opening ++ path.text.toList := by
  have empty : isAbsolute ⟨""⟩ = false := rfl
  rw [opening, join, join, relative, empty, if_neg Bool.false_ne_true, if_neg Bool.false_ne_true]
  split <;> simp

theorem opening_eq (base : Path) : base.opening =
    if base.text.toList = [] ∨ base.text.toList.getLast? = some '/' then base.text.toList
    else base.text.toList ++ ['/'] := by
  have empty : isAbsolute ⟨""⟩ = false := rfl
  rw [opening, join, empty, if_neg Bool.false_ne_true]
  by_cases ends : base.text.toList = [] ∨ base.text.toList.getLast? = some '/'
  · rw [if_pos ends, if_pos (by simpa using ends)]
    simp
  · rw [if_neg ends, if_neg (by simpa using ends)]
    simp

/-- What is in a directory stands behind a slash, unless the directory is not written. -/
theorem opening_ends (base : Path) : base.opening = [] ∨ base.opening.getLast? = some '/' := by
  rw [opening_eq]
  split
  · next ends => exact ends
  · exact .inr List.getLast?_concat

theorem head?_opening (base : Path) : base.opening.head? = base.text.toList.head? := by
  rw [opening_eq]
  split
  · rfl
  · next ends =>
    obtain ⟨c, rest, split⟩ := List.exists_cons_of_ne_nil (not_or.mp ends).1
    rw [split]
    rfl

theorem isAbsolute_join (relative : path.isAbsolute = false) :
    (base.join path).isAbsolute = true ↔ base.isAbsolute = true := by
  have begins : path.text.toList.head? ≠ some '/' := of_decide_eq_false relative
  rw [isAbsolute_iff, isAbsolute_iff, toList_join relative, List.head?_append, head?_opening]
  cases base.text.toList.head? with
  | none => simpa using begins
  | some c => simp

theorem relative_join (relative : base.isAbsolute = false) (relative' : path.isAbsolute = false) :
    (base.join path).isAbsolute = false :=
  Bool.eq_false_iff.mpr fun absolute =>
    absurd ((isAbsolute_join relative').mp absolute) (Bool.eq_false_iff.mp relative)

theorem isAbsolute_join_of_absolute (absolute : base.isAbsolute = true) (path : Path) :
    (base.join path).isAbsolute = true := by
  cases relative : path.isAbsolute with
  | true => rw [join_of_absolute relative, relative]
  | false => exact (isAbsolute_join relative).mpr absolute

theorem text_ne_of_absolute (absolute : base.isAbsolute = true) : base.text ≠ "" := by
  intro none
  rw [isAbsolute_iff, none] at absolute
  cases absolute

theorem mem_opening {c : Char} (member : c ∈ base.opening) : c ∈ base.text.toList ∨ c = '/' := by
  rw [opening_eq] at member
  split at member
  · exact .inl member
  · exact (List.mem_append.mp member).imp_right List.mem_singleton.mp

theorem mem_opening_of_mem {c : Char} (member : c ∈ base.text.toList) : c ∈ base.opening := by
  rw [opening_eq]
  split
  · exact member
  · exact List.mem_append_left _ member

theorem IsTame.exists_opening (tame : dir.IsTame) (nonempty : dir.text ≠ "") :
    ∃ front, dir.opening = front ++ ['/'] ∧ ∀ c ∈ front, ¬ Glob.IsWild c := by
  have some : dir.text.toList ≠ [] := fun none => nonempty (String.toList_eq_nil_iff.mp none)
  rw [opening_eq]
  split
  · next ends =>
    obtain ⟨front, split⟩ := List.getLast?_eq_some_iff.mp (ends.resolve_left some)
    refine ⟨front, split, fun c member => tame c ?_⟩
    rw [split]
    exact List.mem_append_left _ member
  · exact ⟨_, rfl, tame⟩

theorem IsPlain.relative (plain : path.IsPlain) : path.isAbsolute = false := by
  refine Bool.eq_false_iff.mpr fun absolute => ?_
  obtain ⟨rest, slash⟩ := List.head?_eq_some_iff.mp (isAbsolute_iff.mp absolute)
  have empty : "" ∈ path.parts := by
    rw [parts, slash, splitSlashes, if_pos rfl]
    exact List.mem_cons_self
  exact (plain "" empty).1 rfl

theorem IsPlain.below (plain : dir.IsPlain) (plain' : path.IsPlain) :
    IsPlain ⟨dir.text ++ "/" ++ path.text⟩ := by
  have slash : "/".toList = ['/'] := rfl
  intro part member
  rw [parts, String.toList_append, String.toList_append, List.append_assoc, slash,
    List.singleton_append, splitSlashes_append, List.map_append] at member
  exact (List.mem_append.mp member).elim (plain part) (plain' part)

/-- The paths in a directory of a directory begin with both. -/
theorem opening_join (relative : dir.isAbsolute = false) :
    (base.join dir).opening = base.opening ++ dir.opening := by
  rw [opening_eq (base.join dir), opening_eq dir, toList_join relative]
  by_cases empty : dir.text.toList = []
  · rw [empty, List.append_nil, if_pos base.opening_ends, if_pos (.inl rfl), List.append_nil]
  · rw [List.getLast?_append_of_ne_nil _ empty]
    simp only [List.append_eq_nil_iff, empty, and_false, false_or]
    split
    · rfl
    · rw [List.append_assoc]

/-- Joining is associative where the second path is relative. -/
theorem join_join (relative : dir.isAbsolute = false) :
    (base.join dir).join path = base.join (dir.join path) := by
  cases absolute : path.isAbsolute with
  | true =>
    rw [join_of_absolute absolute, join_of_absolute absolute, join_of_absolute absolute]
  | false =>
    have below := relative_join relative absolute
    have same : ((base.join dir).join path).text.toList = (base.join (dir.join path)).text.toList := by
      rw [toList_join absolute, toList_join below, toList_join absolute, opening_join relative,
        List.append_assoc]
    exact congrArg Path.mk (String.toList_inj.mp same)

end Path

open Toml.Value

namespace Config

/-- A path, read as a pattern, takes another one. -/
def Covers (pattern path : Path) : Prop :=
  ∃ steps, Glob.Pattern.parse? pattern.text = some steps ∧ steps.accepts path.text.toList = true

/-- A text stands in an ignore list of a table. -/
def Ignores (table : Toml.Table) (text : String) : Prop :=
  ∃ items, (ignoreKey, .array items) ∈ table ∧ .string text ∈ items

variable {root root' dir current path other : Path} {config next : Config} {key text : String}
  {value item : Toml.Value} {table : Toml.Table} {pattern : Glob.Pattern} {patterns : List Glob.Pattern}

theorem covers_iff : Covers dir path ↔ Glob.Takes true dir.text.toList path.text.toList :=
  Glob.exists_accepts_iff

theorem ignorePattern_plain_eq_ok_iff : ignorePattern root item.plain = .ok pattern ↔
    ∃ text, item = .string text ∧ Glob.Pattern.parse? (root.join ⟨text⟩).text = some pattern := by
  cases item with
  | string text =>
    simp only [plain, ignorePattern, string.injEq, exists_eq_left']
    cases Glob.Pattern.parse? (root.join ⟨text⟩).text <;> simp
  | _ =>
    constructor
    · intro read
      cases read
    · rintro ⟨_, ⟨⟩, -⟩

/-- What an entry of a table adds to the patterns. -/
inductive Adds (root : Path) (key : String) : Toml.Value → List Glob.Pattern → Prop
  | other {value : Toml.Value} (other : key ≠ ignoreKey) : Adds root key value []
  | list {items : List Toml.Value} {patterns : List Glob.Pattern} (named : key = ignoreKey)
      (read : items.Forall₂ (fun item pattern => ignorePattern root item.plain = .ok pattern) patterns) :
    Adds root key (.array items) patterns

theorem addEntry_adds (added : addEntry root config key value.plain = .ok next) :
    ∃ patterns, Adds root key value patterns ∧ next.ignored = config.ignored ++ patterns := by
  unfold addEntry at added
  split at added
  · next named =>
    cases value with
    | array items =>
      obtain ⟨patterns, read, same⟩ := bind_eq_ok_iff.mp added
      rw [plainItems_eq, List.mapM_map] at read
      cases same
      exact ⟨patterns, .list named (mapM_eq_ok_iff.mp read), rfl⟩
    | _ => cases added
  · next noList =>
    refine ⟨[], .other noList, ?_⟩
    rw [List.append_nil]
    split at added
    · cases added
      rfl
    · split at added
      · cases added
        rfl
      · cases added
        rfl
      · obtain ⟨read, -, same⟩ := bind_eq_ok_iff.mp added
        cases same
        rfl
      · cases added

theorem Adds.again (adds : Adds root key value patterns)
    (readable : ∀ text, (Glob.Pattern.parse? (root.join ⟨text⟩).text).isSome →
      (Glob.Pattern.parse? (root'.join ⟨text⟩).text).isSome) :
    ∃ patterns', Adds root' key value patterns' := by
  cases adds with
  | other other => exact ⟨[], .other other⟩
  | @list items patterns named read =>
    have again : ∃ patterns', items.Forall₂ (fun item pattern =>
        ignorePattern root' item.plain = .ok pattern) patterns' := by
      induction read with
      | nil => exact ⟨[], .nil⟩
      | cons here _ ih =>
        obtain ⟨patterns', later⟩ := ih
        obtain ⟨text, rfl, parsed⟩ := ignorePattern_plain_eq_ok_iff.mp here
        obtain ⟨pattern', parsed'⟩ := Option.isSome_iff_exists.mp (readable text (parsed ▸ rfl))
        exact ⟨_, .cons (ignorePattern_plain_eq_ok_iff.mpr ⟨text, rfl, parsed'⟩) later⟩
    obtain ⟨patterns', read'⟩ := again
    exact ⟨patterns', .list named read'⟩

/-- Apart from its patterns an entry is read alike below any directory. -/
theorem addEntry_again (config' : Config) (added : addEntry root config key value.plain = .ok next)
    (adds : Adds root' key value patterns) :
    ∃ next', addEntry root' config' key value.plain = .ok next' := by
  unfold addEntry at added ⊢
  cases adds with
  | @list items patterns named read =>
    have again : items.mapM (ignorePattern root' ∘ plain) = .ok patterns := mapM_eq_ok_iff.mpr read
    rw [if_pos named, plain]
    dsimp only
    rw [plainItems_eq, List.mapM_map, again]
    exact ⟨_, rfl⟩
  | other noList =>
    rw [if_neg noList] at added ⊢
    split at added
    · exact ⟨_, rfl⟩
    · split at added
      · exact ⟨_, rfl⟩
      · exact ⟨_, rfl⟩
      · obtain ⟨read, found, -⟩ := bind_eq_ok_iff.mp added
        rw [found]
        exact ⟨_, rfl⟩
      · cases added

theorem foldlM_again (config' : Config)
    (loads : table.foldlM (fun config entry => addEntry root config entry.1 entry.2.plain) config =
      .ok next)
    (readable : ∀ text, (Glob.Pattern.parse? (root.join ⟨text⟩).text).isSome →
      (Glob.Pattern.parse? (root'.join ⟨text⟩).text).isSome) :
    ∃ next', table.foldlM (fun config entry => addEntry root' config entry.1 entry.2.plain) config' =
      .ok next' := by
  induction table generalizing config config' with
  | nil => exact ⟨config', rfl⟩
  | cons entry table ih =>
    rw [List.foldlM_cons] at loads ⊢
    obtain ⟨middle, added, loads⟩ := bind_eq_ok_iff.mp loads
    obtain ⟨patterns, adds, -⟩ := addEntry_adds added
    obtain ⟨patterns', adds'⟩ := adds.again readable
    obtain ⟨middle', added'⟩ := addEntry_again config' added adds'
    obtain ⟨next', loads'⟩ := ih middle' loads
    exact ⟨next', bind_eq_ok_iff.mpr ⟨middle', added', loads'⟩⟩

theorem Adds.mem_iff (adds : Adds root key value patterns) : pattern ∈ patterns ↔ ∃ items text,
    (ignoreKey, Toml.Value.array items) = (key, value) ∧ .string text ∈ items ∧
      Glob.Pattern.parse? (root.join ⟨text⟩).text = some pattern := by
  cases adds with
  | other other =>
    refine ⟨fun member => absurd member List.not_mem_nil, ?_⟩
    rintro ⟨items, text, same, -⟩
    exact absurd (Prod.mk.inj same).1.symm other
  | @list items patterns named read =>
    rw [mem_results_iff (mapM_eq_ok_iff.mpr read)]
    simp only [ignorePattern_plain_eq_ok_iff]
    constructor
    · rintro ⟨_, listed, text, rfl, parsed⟩
      exact ⟨items, text, by rw [named], listed, parsed⟩
    · rintro ⟨items, text, same, listed, parsed⟩
      cases same
      exact ⟨_, listed, text, rfl, parsed⟩

theorem ofValue_again (loads : ofValue root (.table table) = .ok config)
    (readable : ∀ text, (Glob.Pattern.parse? (root.join ⟨text⟩).text).isSome →
      (Glob.Pattern.parse? (root'.join ⟨text⟩).text).isSome) :
    ∃ config', ofValue root' (.table table) = .ok config' := by
  rw [ofValue_table] at loads ⊢
  exact foldlM_again {} loads readable

theorem mem_ignored_foldlM
    (loads : table.foldlM (fun config entry => addEntry root config entry.1 entry.2.plain) config =
      .ok next) : pattern ∈ next.ignored ↔ pattern ∈ config.ignored ∨
        ∃ text, Ignores table text ∧ Glob.Pattern.parse? (root.join ⟨text⟩).text = some pattern := by
  induction table generalizing config with
  | nil =>
    cases loads
    simp [Ignores]
  | cons entry table ih =>
    rw [List.foldlM_cons] at loads
    obtain ⟨middle, added, loads⟩ := bind_eq_ok_iff.mp loads
    obtain ⟨patterns, adds, grown⟩ := addEntry_adds added
    rw [ih loads, grown, List.mem_append, or_assoc, adds.mem_iff]
    refine or_congr_right ⟨?_, ?_⟩
    · rintro (⟨items, text, same, listed, parsed⟩ | ⟨text, ⟨items, member, listed⟩, parsed⟩)
      · exact ⟨text, ⟨items, same ▸ List.mem_cons_self, listed⟩, parsed⟩
      · exact ⟨text, ⟨items, List.mem_cons_of_mem _ member, listed⟩, parsed⟩
    · rintro ⟨text, ⟨items, member, listed⟩, parsed⟩
      rcases List.mem_cons.mp member with same | member
      · exact .inl ⟨items, text, same, listed, parsed⟩
      · exact .inr ⟨text, ⟨items, member, listed⟩, parsed⟩

/-- A path is ignored if a text of the ignore lists, joined to the directory, takes it. -/
theorem isIgnored_iff (loads : ofValue root (.table table) = .ok config) :
    config.isIgnored current path = true ↔
      ∃ text, Ignores table text ∧ Covers (root.join ⟨text⟩) (current.join path) := by
  rw [ofValue_table] at loads
  have patterns {pattern : Glob.Pattern} : pattern ∈ config.ignored ↔ ∃ text, Ignores table text ∧
      Glob.Pattern.parse? (root.join ⟨text⟩).text = some pattern := by
    rw [mem_ignored_foldlM loads, or_iff_right List.not_mem_nil]
  simp only [isIgnored, List.any_eq_true, patterns, Covers]
  constructor
  · rintro ⟨pattern, ⟨text, listed, parsed⟩, taken⟩
    exact ⟨text, listed, pattern, parsed, taken⟩
  · rintro ⟨text, listed, pattern, parsed, taken⟩
    exact ⟨pattern, ⟨text, listed, parsed⟩, taken⟩

theorem ignores_singleton_iff {listed : String} :
    Ignores [(ignoreKey, .array [.string listed])] text ↔ text = listed := by
  simp [Ignores]

theorem ofValue_listing {listed : String}
    (parsed : Glob.Pattern.parse? (root.join ⟨listed⟩).text = some pattern) :
    ofValue root (.table [(ignoreKey, .array [.string listed])]) = .ok { ignored := [pattern] } := by
  have read : ignorePattern root (.string listed) = .ok pattern :=
    ignorePattern_plain_eq_ok_iff.mpr ⟨listed, rfl, parsed⟩
  have list : [Toml.Value.string listed].mapM (ignorePattern root) = .ok [pattern] :=
    mapM_eq_ok_iff.mpr (.cons read .nil)
  have added : addEntry root {} ignoreKey (.array [.string listed]) = .ok { ignored := [pattern] } := by
    unfold addEntry
    rw [if_pos rfl]
    dsimp only
    rw [list]
    rfl
  rw [ofValue_table, List.foldlM_cons]
  exact bind_eq_ok_iff.mpr ⟨_, added, rfl⟩

/-- A configuration with one entry ignores, of all plain paths in its directory, just that of the entry. -/
def IgnoresOnly (dir path : Path) : Prop :=
  ∃ config, ofValue dir (.table [(ignoreKey, .array [.string path.text])]) = .ok config ∧
    ∀ current other : Path, other.IsPlain →
      (config.isIgnored current (dir.join other) = true ↔ other = path)

theorem ignoresOnly_iff (absolute : dir.isAbsolute = true) (plain : path.IsPlain) :
    IgnoresOnly dir path ↔
      ∀ other : Path, other.IsPlain → (Covers (dir.join path) (dir.join other) ↔ other = path) := by
  have whole (current other : Path) : current.join (dir.join other) = dir.join other :=
    Path.join_of_absolute (Path.isAbsolute_join_of_absolute absolute other)
  have covers {config : Config} {current other : Path}
      (loads : ofValue dir (.table [(ignoreKey, .array [.string path.text])]) = .ok config) :
      config.isIgnored current (dir.join other) = true ↔ Covers (dir.join path) (dir.join other) := by
    rw [isIgnored_iff loads, whole]
    simp only [ignores_singleton_iff, exists_eq_left]
  constructor
  · rintro ⟨config, loads, only⟩ other plain'
    rw [← only dir other plain', covers loads]
  · intro only
    obtain ⟨pattern, parsed, -⟩ := (only path plain).mpr rfl
    refine ⟨_, ofValue_listing parsed, fun current other plain' => ?_⟩
    rw [covers (ofValue_listing parsed), only other plain']

theorem ignoresOnly_of_even (absolute : dir.isAbsolute = true) (plain : path.IsPlain)
    (tame : path.IsTame) (even : ∀ c ∈ dir.text.toList, c ≠ '*' ∧ c ≠ '[') : IgnoresOnly dir path := by
  refine (ignoresOnly_iff absolute plain).mpr fun other plain' => ?_
  have evenly : ∀ c ∈ dir.opening ++ path.text.toList, c ≠ '*' ∧ c ≠ '[' := by
    refine List.forall_mem_append.mpr ⟨fun c member => ?_, fun c member => ?_⟩
    · rcases Path.mem_opening member with member | rfl
      · exact even c member
      · decide
    · exact ⟨fun star => tame c member (.inr (.inl star)),
        fun opened => tame c member (.inr (.inr opened))⟩
  rw [covers_iff, Path.toList_join plain.relative, Path.toList_join plain'.relative,
    Glob.takes_iff_forall₂ evenly]
  constructor
  · intro each
    have names := List.forall₂_drop dir.opening.length each
    rw [List.drop_left, List.drop_left] at names
    have alike := ((List.forall₂_and_left _ _).mpr ⟨tame, names⟩).imp fun _ _ ⟨tame, alike⟩ =>
      alike.resolve_left fun any => tame (.inl any)
    rw [List.forall₂_eq_eq_eq, String.toList_inj] at alike
    exact congrArg Path.mk alike.symm
  · rintro rfl
    exact List.forall₂_same.mpr fun _ _ => .inr rfl

/-- A star or a class in the names of a directory takes other paths than that of the entry, or not even
that one. -/
theorem even_of_ignoresOnly {names : Path} (plain : path.IsPlain) (tame : path.IsTame)
    (named : names.IsPlain) (written : dir.opening = '/' :: names.text.toList ++ ['/'])
    (absolute : dir.isAbsolute = true) (only : IgnoresOnly dir path) :
    ∀ c ∈ names.text.toList, c ≠ '*' ∧ c ≠ '[' := by
  rw [ignoresOnly_iff absolute plain] at only
  have slash : ¬ Glob.IsWild '/' := by decide
  have text {other : Path} (plain' : other.IsPlain) : (dir.join other).text.toList =
      '/' :: (names.text.toList ++ '/' :: other.text.toList) := by
    rw [Path.toList_join plain'.relative, written]
    simp
  have taken := (only path plain).mpr rfl
  rw [covers_iff, text plain, Glob.takes_cons_iff slash] at taken
  obtain ⟨_, ⟨⟩, taken⟩ := taken
  rcases taken.stretches_or_shorter with
    ⟨before, after, front, rest, star, split, short, longer⟩ | shorter
  · -- What the first star takes can stand behind the directory once more: a plain path of its own.
    have absent : '*' ∉ '/' :: path.text.toList :=
      List.not_mem_cons_of_ne_of_not_mem (by decide) fun member => tame '*' member (.inr (.inl rfl))
    have first : before.length ≤ names.text.toList.length := by
      rcases List.append_eq_append_iff.mp star with ⟨more, -, same⟩ | ⟨more, same, -⟩
      · exact absurd (same ▸ List.mem_append_right more List.mem_cons_self) absent
      · rw [same, List.length_append]
        exact Nat.le_add_right _ _
    obtain ⟨more, same⟩ : front <+: names.text.toList :=
      List.prefix_of_prefix_length_le ⟨rest, split.symm⟩ (List.prefix_append _ _) (short.trans first)
    have plain' := named.below plain
    have again : Covers (dir.join path) (dir.join ⟨names.text ++ "/" ++ path.text⟩) := by
      have taken := longer (more ++ ['/']) fun _ => .inr List.getLast?_concat
      rw [← split, List.append_assoc, ← List.append_assoc front, same] at taken
      rw [covers_iff, text plain, text plain', Glob.takes_cons_iff slash]
      refine ⟨_, rfl, ?_⟩
      rw [String.toList_append, String.toList_append, List.append_assoc]
      exact taken
    have size := congrArg (fun other : Path => other.text.toList.length) ((only _ plain').mp again)
    have slash : "/".toList.length = 1 := rfl
    simp only [String.toList_append, List.length_append, slash] at size
    omega
  · intro c member
    have inside := List.mem_append_left ('/' :: path.text.toList) member
    constructor
    · rintro rfl
      exact absurd (shorter.2 (.inl inside)) (lt_irrefl _)
    · rintro rfl
      exact absurd (shorter.2 (.inr inside)) (lt_irrefl _)

/-- An entry without characters of patterns ignores its own path and no other, below any directory that has
no star and no opening bracket in it. Below a directory of plain names that has one of these it does not. -/
theorem ignoresOnly_iff_even (absolute : dir.isAbsolute = true) (plain : path.IsPlain)
    (tame : path.IsTame) :
    ((∀ c ∈ dir.text.toList, c ≠ '*' ∧ c ≠ '[') → IgnoresOnly dir path) ∧
      ∀ names : Path, names.IsPlain → dir.opening = '/' :: names.text.toList ++ ['/'] →
        (IgnoresOnly dir path ↔ ∀ c ∈ dir.text.toList, c ≠ '*' ∧ c ≠ '[') := by
  refine ⟨ignoresOnly_of_even absolute plain tame, fun names named written => ?_⟩
  refine ⟨fun only c member => ?_, ignoresOnly_of_even absolute plain tame⟩
  have even := even_of_ignoresOnly plain tame named written absolute only
  have member := Path.mem_opening_of_mem member
  rw [written] at member
  rcases List.mem_append.mp member with member | member
  · rcases List.mem_cons.mp member with rfl | member
    · decide
    · exact even c member
  · rw [List.mem_singleton.mp member]
    decide

/-- Brackets in the name of a directory are read as a class, so that what the entry names in that directory is
not ignored. A question mark does no harm. -/
theorem ignoresOnly_iff_even_bracketed : ¬ IgnoresOnly ⟨"/[a]"⟩ ⟨"x"⟩ ∧ IgnoresOnly ⟨"/a?"⟩ ⟨"x"⟩ ∧
    ∃ config, ofValue ⟨"/[a]"⟩ (.table [(ignoreKey, .array [.string "x"])]) = .ok config ∧
      config.isIgnored ⟨"/"⟩ ⟨"/[a]/x"⟩ = false := by
  have absolute : Path.isAbsolute ⟨"/[a]"⟩ = true ∧ Path.isAbsolute ⟨"/a?"⟩ = true := ⟨rfl, rfl⟩
  have plain : Path.IsPlain ⟨"x"⟩ ∧ Path.IsPlain ⟨"[a]"⟩ := by decide
  have tame : Path.IsTame ⟨"x"⟩ := by decide
  have even : ∀ c ∈ ['/', 'a', '?'], c ≠ '*' ∧ c ≠ '[' := by simp
  have bracketed := (ignoresOnly_iff_even absolute.1 plain.1 tame).2 _ plain.2 rfl
  have marked := (ignoresOnly_iff_even absolute.2 plain.1 tame).1
  have parsed : Glob.Pattern.parse? (Path.join ⟨"/[a]"⟩ ⟨"x"⟩).text =
      some [.char '/', .oneOf [.single 'a'], .char '/', .char 'x'] := rfl
  refine ⟨fun only => ?_, marked even, _, ofValue_listing parsed, rfl⟩
  exact absurd rfl (bracketed.mp only '[' (by decide)).2

/-- A pattern below a tame directory takes what is in that directory, if what is left of it is taken by the
pattern alone. -/
theorem covers_join_iff (tame : root.IsTame) (nonempty : root.text ≠ "")
    (relative : dir.isAbsolute = false) : Covers (root.join dir) path ↔
      ∃ rest : Path, path.text.toList = root.opening ++ rest.text.toList ∧ Covers dir rest := by
  obtain ⟨front, opens, plain⟩ := tame.exists_opening nonempty
  simp only [covers_iff]
  rw [Path.toList_join relative, opens, List.append_assoc, List.singleton_append,
    Glob.takes_append_iff plain]
  constructor
  · rintro ⟨rest, split, taken⟩
    have same : (String.ofList rest).toList = rest := String.toList_ofList
    exact ⟨⟨String.ofList rest⟩, by rw [split, same, List.append_assoc]; rfl, by rwa [same]⟩
  · rintro ⟨rest, split, taken⟩
    exact ⟨rest.text.toList, by rw [split, List.append_assoc]; rfl, taken⟩

theorem isSome_parse?_join_iff (tame : root.IsTame) (nonempty : root.text ≠ "") :
    (Glob.Pattern.parse? (root.join path).text).isSome = true ↔
      (Glob.Pattern.parse? path.text).isSome = true := by
  cases absolute : path.isAbsolute with
  | true => rw [Path.join_of_absolute absolute]
  | false =>
    obtain ⟨front, opens, plain⟩ := tame.exists_opening nonempty
    rw [Glob.isSome_parse?_iff, Glob.isSome_parse?_iff, Path.toList_join absolute, opens,
      List.append_assoc, List.singleton_append, Glob.readable_append_iff plain]

/-- Some entry of the ignore list that is an absolute path takes a path. -/
def TakenAbsolutely (table : Toml.Table) (path : Path) : Prop :=
  ∃ text, Ignores table text ∧ Path.isAbsolute ⟨text⟩ = true ∧ Covers ⟨text⟩ path

/-- Some entry of the ignore list that is a relative path takes a path, once it is joined to a directory. -/
def TakenBelow (dir : Path) (table : Toml.Table) (path : Path) : Prop :=
  ∃ text, Ignores table text ∧ Path.isAbsolute ⟨text⟩ = false ∧ Covers (dir.join ⟨text⟩) path

theorem isIgnored_iff_taken (loads : ofValue root (.table table) = .ok config) :
    config.isIgnored current path = true ↔
      TakenAbsolutely table (current.join path) ∨ TakenBelow root table (current.join path) := by
  rw [isIgnored_iff loads]
  constructor
  · rintro ⟨text, listed, covers⟩
    cases absolute : Path.isAbsolute ⟨text⟩ with
    | true => exact .inl ⟨text, listed, absolute, Path.join_of_absolute absolute ▸ covers⟩
    | false => exact .inr ⟨text, listed, absolute, covers⟩
  · rintro (⟨text, listed, absolute, covers⟩ | ⟨text, listed, -, covers⟩)
    · exact ⟨text, listed, (Path.join_of_absolute absolute).symm ▸ covers⟩
    · exact ⟨text, listed, covers⟩

theorem takenBelow_join_iff (tame : current.IsTame) (nonempty : current.text ≠ "")
    (relative : dir.isAbsolute = false) : TakenBelow (current.join dir) table path ↔
      ∃ rest : Path, path.text.toList = current.opening ++ rest.text.toList ∧
        TakenBelow dir table rest := by
  constructor
  · rintro ⟨text, listed, relative', covers⟩
    have below := Path.relative_join relative relative'
    rw [Path.join_join relative, covers_join_iff tame nonempty below] at covers
    obtain ⟨rest, split, covers⟩ := covers
    exact ⟨rest, split, text, listed, relative', covers⟩
  · rintro ⟨rest, split, text, listed, relative', covers⟩
    have below := Path.relative_join relative relative'
    refine ⟨text, listed, relative', ?_⟩
    rw [Path.join_join relative, covers_join_iff tame nonempty below]
    exact ⟨rest, split, covers⟩

/-- Below a relative directory whose name begins as it is read no entry takes an absolute path. -/
theorem not_takenBelow_of_absolute {c : Char} (relative : dir.isAbsolute = false)
    (begins : dir.text.toList.head? = some c) (tame : ¬ Glob.IsWild c) (absolute : path.isAbsolute = true) :
    ¬ TakenBelow dir table path := by
  rintro ⟨text, -, relative', covers⟩
  obtain ⟨rest, opens⟩ := List.head?_eq_some_iff.mp (dir.head?_opening.trans begins)
  rw [covers_iff, Path.toList_join relative', opens, List.cons_append, Glob.takes_cons_iff tame] at covers
  obtain ⟨_, split, -⟩ := covers
  rw [Path.isAbsolute_iff, split, List.head?_cons, Option.some.injEq] at absolute
  rw [absolute] at begins
  exact absurd (Path.isAbsolute_iff.mpr begins) (Bool.eq_false_iff.mp relative)

/-- A configuration of a relative directory is not that of the directory it is in the current one: an
absolute entry means the same in both, but a relative one is compared with whole paths in the first, and in
the second with what is left of them in the current directory. The first comparison fails, unless the name
of the directory begins like a pattern. -/
theorem isIgnored_relative (relative : dir.isAbsolute = false) (absolute : current.isAbsolute = true)
    (tame : current.IsTame) (loads : ofValue dir (.table table) = .ok config) :
    ∃ config', ofValue (current.join dir) (.table table) = .ok config' ∧ ∀ path,
      config.isIgnored current (current.join path) = config.isIgnored current path ∧
      config'.isIgnored current (current.join path) = config'.isIgnored current path ∧
      (config.isIgnored current path = config'.isIgnored current path ↔
        TakenAbsolutely table (current.join path) ∨
          (TakenBelow dir table (current.join path) ↔ ∃ rest : Path,
            (current.join path).text.toList = current.opening ++ rest.text.toList ∧
              TakenBelow dir table rest)) ∧
      ∀ c, dir.text.toList.head? = some c → ¬ Glob.IsWild c →
        ¬ TakenBelow dir table (current.join path) := by
  have nonempty := Path.text_ne_of_absolute absolute
  have readable (text : String) : (Glob.Pattern.parse? (dir.join ⟨text⟩).text).isSome →
      (Glob.Pattern.parse? ((current.join dir).join ⟨text⟩).text).isSome := by
    rw [Path.join_join relative, isSome_parse?_join_iff tame nonempty]
    exact id
  obtain ⟨config', loads'⟩ := ofValue_again loads readable
  refine ⟨config', loads', fun path => ?_⟩
  have whole := Path.isAbsolute_join_of_absolute absolute path
  refine ⟨?_, ?_, ?_, fun c begins plain => not_takenBelow_of_absolute relative begins plain whole⟩
  · rw [isIgnored, isIgnored, Path.join_of_absolute whole]
  · rw [isIgnored, isIgnored, Path.join_of_absolute whole]
  · rw [Bool.eq_iff_iff, isIgnored_iff_taken loads, isIgnored_iff_taken loads',
      takenBelow_join_iff tame nonempty relative]
    by_cases listed : TakenAbsolutely table (current.join path)
    · simp only [listed, true_or]
    · simp only [listed, false_or]

/-- What is ignored in the directory `/sub` is not ignored in the same directory where that is written as
`sub`. -/
theorem isIgnored_relative_sub : ∃ config config',
    ofValue ⟨"sub"⟩ (.table [(ignoreKey, .array [.string "x"])]) = .ok config ∧
      ofValue (Path.join ⟨"/"⟩ ⟨"sub"⟩) (.table [(ignoreKey, .array [.string "x"])]) = .ok config' ∧
        config.isIgnored ⟨"/"⟩ ⟨"sub/x"⟩ ≠ config'.isIgnored ⟨"/"⟩ ⟨"sub/x"⟩ := by
  have parsed : Glob.Pattern.parse? (Path.join ⟨"sub"⟩ ⟨"x"⟩).text = some ("sub/x".toList.map .char) :=
    rfl
  have relative : Path.isAbsolute ⟨"sub"⟩ = false := rfl
  have absolute : Path.isAbsolute ⟨"/"⟩ = true := rfl
  have tame : Path.IsTame ⟨"/"⟩ := by decide
  obtain ⟨config', loads', each⟩ := isIgnored_relative relative absolute tame (ofValue_listing parsed)
  obtain ⟨-, -, agree, named⟩ := each ⟨"sub/x"⟩
  refine ⟨_, config', ofValue_listing parsed, loads', fun same => ?_⟩
  have below : TakenBelow ⟨"sub"⟩ [(ignoreKey, .array [.string "x"])] ⟨"sub/x"⟩ :=
    ⟨"x", ignores_singleton_iff.mpr rfl, by decide, _, parsed, by decide⟩
  rcases agree.mp same with ⟨text, listed, absolute, -⟩ | alike
  · rw [ignores_singleton_iff.mp listed] at absolute
    exact absurd absolute (by decide)
  · exact named 's' (by decide) (by decide) (alike.mpr ⟨⟨"sub/x"⟩, by decide, below⟩)

end Config

end BlankLines
