import BlankLines.FileTree
import BlankLines.Proofs.Keyed
import BlankLines.Proofs.Text.Bytes

/-!
Names of entries, and the paths that are made by joining them: joining a name adds one component, and
paths are in the order of their components.
-/
namespace BlankLines

namespace FileTree

/-- What a file system admits as the name of an entry. -/
structure IsName (name : String) : Prop where
  nonempty : name ≠ ""
  notHere : name ≠ "."
  notAbove : name ≠ ".."
  slashless : '/' ∉ name.toList
  nulless : '\x00' ∉ name.toList
  size : name.utf8ByteSize ≤ maxNameSize

instance {name : String} : Decidable (IsName name) :=
  decidable_of_iff (name ≠ "" ∧ name ≠ "." ∧ name ≠ ".." ∧ '/' ∉ name.toList ∧ '\x00' ∉ name.toList ∧
      name.utf8ByteSize ≤ maxNameSize)
    ⟨fun ⟨a, b, c, d, e, f⟩ => ⟨a, b, c, d, e, f⟩, fun ⟨a, b, c, d, e, f⟩ => ⟨a, b, c, d, e, f⟩⟩

/-- Every entry has a name that no other entry of its directory has. -/
inductive WellNamed : FileTree → Prop
  | file (bytes : ByteArray) : WellNamed (.file bytes)
  | directory {entries : List (String × FileTree)} (distinct : Keyed.Distinct entries)
      (named : ∀ entry ∈ entries, IsName entry.1) (inner : ∀ entry ∈ entries, WellNamed entry.2) :
      WellNamed (.directory entries)

end FileTree

namespace Path

open FileTree (IsName)

/-- The path below another one by some names. -/
def below (path : Path) (names : List String) : Path :=
  names.foldl (fun path name => path.join ⟨name⟩) path

/-- The parts of a path without those that name nothing. The first part stays: it is empty where the
path begins at the root, and a dot where that begins a relative path. -/
def components (path : Path) : List String :=
  if path.text = "" then []
  else path.parts.take 1 ++ (path.parts.drop 1).filter fun part => part ≠ "" ∧ part ≠ "."

/-- Paths are compared component by component, and components byte by byte. -/
def Before (path path' : Path) : Prop :=
  path.components.map Text.bytes < path'.components.map Text.bytes

instance {path path' : Path} : Decidable (Before path path') :=
  inferInstanceAs (Decidable (path.components.map Text.bytes < path'.components.map Text.bytes))

variable {path : Path} {name : String} {names : List String}

theorem splitSlashes_ne_nil (text : List Char) : splitSlashes text ≠ [] := by
  cases text with
  | nil => exact List.cons_ne_nil _ _
  | cons c text =>
    rw [splitSlashes]
    split
    · exact List.cons_ne_nil _ _
    · split <;> exact List.cons_ne_nil _ _

theorem parts_eq_append (path : Path) :
    path.parts = path.parts.dropLast ++ [path.parts.getLast?.getD ""] := by
  have some : path.parts ≠ [] :=
    fun none => splitSlashes_ne_nil path.text.toList (List.map_eq_nil_iff.mp none)
  rw [List.getLast?_eq_getLast_of_ne_nil some, Option.getD_some, List.dropLast_concat_getLast]

theorem splitSlashes_of_slashless {text : List Char} (slashless : '/' ∉ text) :
    splitSlashes text = [text] := by
  induction text with
  | nil => rfl
  | cons c text ih =>
    obtain ⟨other, slashless⟩ := List.ne_and_not_mem_of_not_mem_cons slashless
    rw [splitSlashes, if_neg other.symm, ih slashless]

theorem splitSlashes_append (text rest : List Char) :
    splitSlashes (text ++ '/' :: rest) = splitSlashes text ++ splitSlashes rest := by
  induction text with
  | nil => rfl
  | cons c text ih =>
    rw [List.cons_append, splitSlashes, splitSlashes, ih]
    split
    · rfl
    · cases parts : splitSlashes text with
      | nil => exact absurd parts (splitSlashes_ne_nil text)
      | cons first more => rfl

/-- Joining a name writes it behind the path, with a slash between where none stands there. -/
theorem text_join (nonempty : path.text ≠ "") (named : IsName name) :
    (path.text.toList.getLast? = some '/' ∧ (path.join ⟨name⟩).text = path.text ++ name) ∨
      (path.join ⟨name⟩).text = path.text ++ "/" ++ name := by
  have relative : isAbsolute ⟨name⟩ = false := by
    rw [isAbsolute, decide_eq_false_iff_not]
    exact fun slash => named.slashless (List.mem_of_head? slash)
  rw [join, relative, if_neg Bool.false_ne_true]
  by_cases ends : path.text.toList.getLast? = some '/'
  · rw [if_pos (by simp [ends])]
    exact .inl ⟨ends, rfl⟩
  · rw [if_neg (by simp [ends, nonempty])]
    exact .inr rfl

/-- Joining a name adds it as the last part, in the place of an empty one if there is one. -/
theorem exists_parts_join (nonempty : path.text ≠ "") (named : IsName name) :
    ∃ parts, parts ≠ [] ∧ (path.parts = parts ∨ path.parts = parts ++ [""]) ∧
      (path.join ⟨name⟩).parts = parts ++ [name] := by
  have last : splitSlashes name.toList = [name.toList] := splitSlashes_of_slashless named.slashless
  have some (text : List Char) : (splitSlashes text).map String.ofList ≠ [] :=
    fun none => splitSlashes_ne_nil text (List.map_eq_nil_iff.mp none)
  rcases text_join nonempty named with ⟨ends, text⟩ | text
  · obtain ⟨front, slashed⟩ := List.getLast?_eq_some_iff.mp ends
    refine ⟨(splitSlashes front).map String.ofList, some front, .inr ?_, ?_⟩
    · rw [parts, slashed, splitSlashes_append, List.map_append]
      rfl
    · rw [parts, text, String.toList_append, slashed, List.append_assoc, List.singleton_append,
        splitSlashes_append, last, List.map_append, List.map_singleton, String.ofList_toList]
  · refine ⟨path.parts, some path.text.toList, .inl rfl, ?_⟩
    have slash : "/".toList = ['/'] := rfl
    rw [parts, parts, text, String.toList_append, String.toList_append, List.append_assoc, slash,
      List.singleton_append, splitSlashes_append, last, List.map_append, List.map_singleton,
      String.ofList_toList]

theorem text_join_ne (nonempty : path.text ≠ "") (named : IsName name) :
    (path.join ⟨name⟩).text ≠ "" := by
  rcases text_join nonempty named with ⟨_, text⟩ | text <;> simp [text, nonempty]

theorem nulless_join (nonempty : path.text ≠ "") (nulless : '\x00' ∉ path.text.toList)
    (named : IsName name) : '\x00' ∉ (path.join ⟨name⟩).text.toList := by
  rcases text_join nonempty named with ⟨_, text⟩ | text <;> simp [text, nulless, named.nulless]

theorem nulless_below (nonempty : path.text ≠ "") (nulless : '\x00' ∉ path.text.toList)
    (named : ∀ name ∈ names, IsName name) : '\x00' ∉ (path.below names).text.toList := by
  induction names generalizing path with
  | nil => exact nulless
  | cons name names ih =>
    obtain ⟨first, rest⟩ := List.forall_mem_cons.mp named
    exact ih (text_join_ne nonempty first) (nulless_join nonempty nulless first) rest

theorem components_join (nonempty : path.text ≠ "") (named : IsName name) :
    (path.join ⟨name⟩).components = path.components ++ [name] := by
  obtain ⟨parts, some, before, joined⟩ := exists_parts_join nonempty named
  obtain ⟨first, rest, rfl⟩ := List.exists_cons_of_ne_nil some
  rw [components, components, if_neg nonempty, if_neg (text_join_ne nonempty named), joined]
  rcases before with same | same <;>
    simp [same, named.nonempty, named.notHere]

theorem components_below (nonempty : path.text ≠ "") (named : ∀ name ∈ names, IsName name) :
    (path.below names).components = path.components ++ names := by
  induction names generalizing path with
  | nil => exact (List.append_nil _).symm
  | cons name names ih =>
    obtain ⟨first, rest⟩ := List.forall_mem_cons.mp named
    rw [below, List.foldl_cons]
    refine (ih (text_join_ne nonempty first) rest).trans ?_
    rw [components_join nonempty first, List.append_assoc, List.singleton_append]

/-- Of two paths below one that part at some name, the one with the lesser name comes first. -/
theorem before_below {name' : String} {more more' : List String} (nonempty : path.text ≠ "")
    (less : name < name') (named : ∀ part ∈ name :: more, IsName part)
    (named' : ∀ part ∈ name' :: more', IsName part) :
    Before (path.below (name :: more)) (path.below (name' :: more')) := by
  rw [Before, components_below nonempty named, components_below nonempty named', List.map_append,
    List.map_append]
  exact List.append_left_lt (.rel (Text.bytes_lt less))

/-- Which paths they are determines a list of paths in this order. -/
theorem eq_of_pairwise_before {paths paths' : List Path} (same : ∀ path, path ∈ paths ↔ path ∈ paths')
    (ordered : paths.Pairwise Before) (ordered' : paths'.Pairwise Before) : paths = paths' := by
  have asymm (path path' : Path) (before : Before path path') : ¬ Before path' path :=
    List.lt_asymm before
  have nodup {paths : List Path} (ordered : paths.Pairwise Before) : paths.Nodup :=
    ordered.imp fun {path path'} before (same : path = path') => asymm path path' before (same ▸ before)
  refine List.Perm.eq_of_pairwise (fun path path' _ _ before after => ?_) ordered ordered' ?_
  · exact absurd after (asymm path path' before)
  · exact (List.perm_ext_iff_of_nodup (nodup ordered) (nodup ordered')).mpr same

theorem takeWhile_reverse_append {stem after : List Char} (dotless : '.' ∉ after) :
    ((stem ++ '.' :: after).reverse.takeWhile (· ≠ '.')).reverse = after := by
  have stays : ∀ c ∈ after.reverse, decide (c ≠ '.') = true := by
    intro c member
    exact decide_eq_true fun dot => dotless (dot ▸ List.mem_reverse.mp member)
  rw [List.reverse_append, List.reverse_cons, List.append_assoc,
    List.takeWhile_append_of_pos stays, List.singleton_append, List.takeWhile_cons,
    if_neg (by simp), List.append_nil, List.reverse_reverse]

/-- What follows the last dot is the extension, if something stands before that dot. -/
theorem extension?_eq_some_iff {extension : String} (dotless : '.' ∉ extension.toList)
    (nonempty : extension ≠ "") : extension? name = some extension ↔
      ∃ stem, stem ≠ [] ∧ name.toList = stem ++ '.' :: extension.toList := by
  rw [extension?]
  generalize name.toList = chars
  constructor
  · intro found
    dsimp only at found
    split at found
    · cases found
    · split at found
      · next short =>
        obtain rfl := Option.some.inj found
        rw [String.toList_ofList] at dotless ⊢
        have parted := List.takeWhile_append_dropWhile (p := fun c => decide (c ≠ '.'))
          (l := chars.reverse)
        have stops := List.head?_dropWhile_not (fun c => decide (c ≠ '.')) chars.reverse
        have size := congrArg List.length parted
        rw [List.length_append, List.length_reverse] at size
        rw [List.length_reverse] at short
        cases rest : chars.reverse.dropWhile (fun c => decide (c ≠ '.')) with
        | nil =>
          rw [rest, List.length_nil] at size
          omega
        | cons dot stem =>
          rw [rest] at parted stops size
          obtain rfl : dot = '.' := by simpa using stops
          refine ⟨stem.reverse, fun none => ?_, ?_⟩
          · rw [List.reverse_eq_nil_iff.mp none, List.length_singleton] at size
            omega
          · have text := congrArg List.reverse parted
            rw [List.reverse_append, List.reverse_cons, List.reverse_reverse, List.append_assoc] at text
            exact text.symm
      · cases found
  · rintro ⟨stem, some, rfl⟩
    have longer : 0 < stem.length := List.length_pos_iff.mpr some
    have suffix : 0 < extension.toList.length :=
      List.length_pos_iff.mpr fun none => nonempty (String.toList_eq_nil_iff.mp none)
    have other : stem ++ '.' :: extension.toList ≠ ['.', '.'] := by
      intro same
      have size := congrArg List.length same
      rw [List.length_append, List.length_cons, List.length_cons, List.length_singleton] at size
      omega
    dsimp only
    rw [takeWhile_reverse_append dotless, if_neg other, if_pos, String.ofList_toList]
    rw [List.length_append, List.length_cons]
    omega

end Path

end BlankLines
