import BlankLines.Proofs.Attempt
import BlankLines.Proofs.FileTree.Names

/-!
Following a path. Where each part of it leads depends only on what stands where: nothing, a directory or a
file. An entry of a directory is found at the path of the directory with its name joined.
-/
namespace BlankLines.FileTree

inductive Kind where
  | directory
  | file (bytes : ByteArray)

def kind : FileTree → Kind
  | .directory _ => .directory
  | .file bytes => .file bytes

/-- What stands under some names. -/
def kindAt (tree : FileTree) (names : List String) : Option Kind :=
  (tree.find? names).map kind

variable {root tree : FileTree} {path : Path} {name part : String} {names next : List String}
  {entries : List (String × FileTree)}

theorem find?_nil (tree : FileTree) : tree.find? [] = some tree := by
  cases tree <;> rfl

theorem find?_directory (entries : List (String × FileTree)) (name : String) (names : List String) :
    (directory entries).find? (name :: names) = (Keyed.get? entries name).bind (·.find? names) := by
  rw [find?]
  cases Keyed.get? entries name <;> rfl

theorem find?_append (tree : FileTree) (names more : List String) :
    tree.find? (names ++ more) = (tree.find? names).bind (·.find? more) := by
  induction names generalizing tree with
  | nil => rw [List.nil_append, find?_nil, Option.bind_some]
  | cons name names ih =>
    cases tree with
    | file bytes => rfl
    | directory entries =>
      rw [List.cons_append, find?_directory, find?_directory, Option.bind_assoc]
      exact Option.bind_congr fun tree _ => ih tree

theorem kindAt_nil (root : FileTree) : root.kindAt [] = some root.kind := by
  rw [kindAt, find?_nil, Option.map_some]

theorem kindAt_directory (entries : List (String × FileTree)) (name : String) (names : List String) :
    (directory entries).kindAt (name :: names) = (Keyed.get? entries name).bind (·.kindAt names) := by
  rw [kindAt, find?_directory, Option.map_bind]
  rfl

theorem kindAt_append (names more : List String) :
    root.kindAt (names ++ more) = (root.find? names).bind (·.kindAt more) := by
  rw [kindAt, find?_append, Option.map_bind]
  rfl

theorem kindAt_eq_directory_iff :
    root.kindAt names = some .directory ↔ ∃ entries, root.find? names = some (.directory entries) := by
  rw [kindAt]
  constructor
  · intro same
    obtain ⟨node, found, kinds⟩ := Option.map_eq_some_iff.mp same
    cases node with
    | file bytes => cases kinds
    | directory entries => exact ⟨entries, found⟩
  · rintro ⟨entries, found⟩
    rw [found]
    rfl

theorem isSome_kindAt_append (found : root.find? names = some (.directory entries)) (part : String) :
    (root.kindAt (names ++ [part])).isSome = Keyed.has entries part := by
  rw [kindAt_append, found, Option.bind_some, kindAt_directory, Keyed.has]
  cases Keyed.get? entries part with
  | none => rfl
  | some node => rw [Option.bind_some, kindAt_nil]; rfl

/-- Where a part of a path leads depends on what stands at the names so far and below them. -/
theorem step_eq_ok_iff : root.step names part = .ok next ↔ root.kindAt names = some .directory ∧
    if part = "" ∨ part = "." then next = names
    else if part = ".." then next = names.dropLast
    else part.utf8ByteSize ≤ maxNameSize ∧ (root.kindAt (names ++ [part])).isSome ∧
      next = names ++ [part] := by
  have ends (last : List String) : (Except.ok last : Except FileError _) = .ok next ↔ next = last :=
    ⟨fun same => (Except.ok.inj same).symm, fun same => congrArg Except.ok same.symm⟩
  rw [step, kindAt_eq_directory_iff]
  split
  · next entries found =>
    rw [and_iff_right ⟨entries, found⟩, isSome_kindAt_append found]
    simp only [Bool.or_eq_true, decide_eq_true_eq]
    split
    · exact ends names
    · split
      · exact ends names.dropLast
      · split
        · next long => simp [Nat.not_le_of_lt long]
        · next short => cases Keyed.has entries part <;> simp [ends, Nat.le_of_not_lt short]
  · next found => simp [found]
  · next found => simp [found]

/-- A name leads from a directory to the entry of that name. -/
theorem step_name (found : root.find? names = some (.directory entries)) (named : IsName name)
    (entry : Keyed.get? entries name = some tree) : root.step names name = .ok (names ++ [name]) := by
  rw [step_eq_ok_iff, if_neg (by simp [named.nonempty, named.notHere]), if_neg named.notAbove,
    isSome_kindAt_append found, Keyed.has, entry]
  exact ⟨kindAt_eq_directory_iff.mpr ⟨entries, found⟩, named.size, rfl, rfl⟩

/-- An empty part leads nowhere else. -/
theorem eq_of_step_empty (stepped : root.step names "" = .ok next) : next = names := by
  have leads := (step_eq_ok_iff.mp stepped).2
  rwa [if_pos (.inl rfl)] at leads

theorem follow_append (root : FileTree) (names : List String) (parts rest : List String) :
    root.follow names (parts ++ rest) = root.follow names parts >>= fun names => root.follow names rest := by
  induction parts generalizing names with
  | nil => rfl
  | cons part parts ih =>
    rw [List.cons_append, follow, follow]
    cases step root names part with
    | error fault => rfl
    | ok next => exact ih next

theorem checkPath_eq_ok_iff : checkPath path = .ok () ↔
    '\x00' ∉ path.text.toList ∧ isTooLong path = false ∧ path.text ≠ "" := by
  rw [checkPath, String.contains_char_eq]
  by_cases nul : '\x00' ∈ path.text.toList <;> cases isTooLong path <;>
    by_cases empty : path.text = "" <;> simp [nul, empty]

theorem locate_eq_ok_iff : root.locate path = .ok tree ↔ ∃ names, checkPath path = .ok () ∧
    root.follow [] path.parts = .ok names ∧ root.find? names = some tree := by
  rw [locate, bind_eq_ok_iff]
  refine exists_congr fun names => ?_
  rw [resolve, bind_eq_ok_iff, ← and_assoc]
  refine and_congr ⟨fun ⟨_, parts⟩ => parts, fun parts => ⟨(), parts⟩⟩ ?_
  cases root.find? names with
  | none => simp [throw, throwThe, MonadExceptOf.throw]
  | some found => simp [pure, Except.pure]

/-- A path that leads somewhere is fit to be followed. -/
theorem checked_of_locate (found : root.locate path = .ok tree) :
    '\x00' ∉ path.text.toList ∧ isTooLong path = false ∧ path.text ≠ "" := by
  obtain ⟨_, checked, _⟩ := locate_eq_ok_iff.mp found
  exact checkPath_eq_ok_iff.mp checked

/-- An entry of a directory is found at the path of the directory with the name joined. -/
theorem locate_join (found : root.locate path = .ok (.directory entries)) (named : IsName name)
    (entry : Keyed.get? entries name = some tree) (short : isTooLong (path.join ⟨name⟩) = false) :
    root.locate (path.join ⟨name⟩) = .ok tree := by
  obtain ⟨nulless, _, nonempty⟩ := checked_of_locate found
  obtain ⟨names, _, followed, place⟩ := locate_eq_ok_iff.mp found
  obtain ⟨parts, _, before, joined⟩ := Path.exists_parts_join nonempty named
  have reached : root.follow [] parts = .ok names := by
    rcases before with same | same
    · rw [← same]
      exact followed
    · rw [same, follow_append] at followed
      obtain ⟨last, reached, stepped⟩ := bind_eq_ok_iff.mp followed
      obtain ⟨next, stepped, same⟩ := bind_eq_ok_iff.mp stepped
      cases same
      rw [reached, eq_of_step_empty stepped]
  rw [locate_eq_ok_iff]
  refine ⟨names ++ [name], ?_, ?_, ?_⟩
  · exact checkPath_eq_ok_iff.mpr
      ⟨Path.nulless_join nonempty nulless named, short, Path.text_join_ne nonempty named⟩
  · rw [joined, follow_append, reached]
    have stepped := step_name place named entry
    exact bind_eq_ok_iff.mpr ⟨names, rfl, bind_eq_ok_iff.mpr ⟨_, stepped, rfl⟩⟩
  · rw [find?_append, place, Option.bind_some, find?_directory, entry, Option.bind_some, find?_nil]

theorem isTooLong_of_join (nonempty : path.text ≠ "") (named : IsName name)
    (short : isTooLong (path.join ⟨name⟩) = false) : isTooLong path = false := by
  have fits : (path.join ⟨name⟩).text.utf8ByteSize ≤ maxPathSize :=
    Nat.le_of_not_lt (of_decide_eq_false short)
  refine decide_eq_false (Nat.not_lt_of_le (Nat.le_trans ?_ fits))
  rcases Path.text_join nonempty named with ⟨_, text⟩ | text <;>
    rw [text] <;> simp only [String.utf8ByteSize_append] <;> omega

theorem isTooLong_of_below (nonempty : path.text ≠ "") (named : ∀ name ∈ names, IsName name)
    (short : isTooLong (path.below names) = false) : isTooLong path = false := by
  induction names generalizing path with
  | nil => exact short
  | cons name names ih =>
    obtain ⟨first, rest⟩ := List.forall_mem_cons.mp named
    exact isTooLong_of_join nonempty first (ih (Path.text_join_ne nonempty first) rest short)

/-- What is found below a node of a tree is found at its path. -/
theorem locate_below {node : FileTree} (found : root.locate path = .ok node)
    (named : ∀ name ∈ names, IsName name) (below : node.find? names = some tree)
    (short : isTooLong (path.below names) = false) : root.locate (path.below names) = .ok tree := by
  induction names generalizing path node with
  | nil =>
    rw [find?_nil] at below
    rw [← Option.some.inj below]
    exact found
  | cons name names ih =>
    obtain ⟨first, rest⟩ := List.forall_mem_cons.mp named
    obtain ⟨_, _, nonempty⟩ := checked_of_locate found
    cases node with
    | file bytes => cases below
    | directory entries =>
      rw [find?_directory] at below
      obtain ⟨inner, entry, below⟩ := Option.bind_eq_some_iff.mp below
      have reached := isTooLong_of_below (Path.text_join_ne nonempty first) rest short
      exact ih (locate_join found first entry reached) rest below short

theorem WellNamed.of_find? {node : FileTree} (wellNamed : node.WellNamed)
    (found : node.find? names = some tree) : ∀ name ∈ names, IsName name := by
  induction names generalizing node with
  | nil => exact fun name member => absurd member List.not_mem_nil
  | cons name names ih =>
    cases wellNamed with
    | file bytes => cases found
    | @directory entries _ named inner =>
      rw [find?_directory] at found
      obtain ⟨below, entry, found⟩ := Option.bind_eq_some_iff.mp found
      have member := Keyed.mem_of_get? entry
      exact List.forall_mem_cons.mpr ⟨named _ member, ih (inner _ member) found⟩

theorem textOf_toUTF8 (text : String) : textOf text.toUTF8 = .ok text := by
  have valid : text.toUTF8.IsValidUTF8 := text.isValidUTF8
  rw [textOf, String.fromUTF8?, dif_pos valid]
  rfl

theorem readText_of_locate {text : String} (found : root.locate path = .ok (.file text.toUTF8)) :
    root.readText path = .ok text := by
  rw [readText, found]
  exact textOf_toUTF8 text

/-- What can be read is a file. -/
theorem exists_file_of_readText {text : String} (reads : root.readText path = .ok text) :
    ∃ bytes, root.locate path = .ok (.file bytes) := by
  obtain ⟨node, found, reads⟩ := bind_eq_ok_iff.mp reads
  cases node with
  | file bytes => exact ⟨bytes, found⟩
  | directory entries => cases reads

/-- A file below a node is read at its path, unless that is too long. -/
theorem readText_below {node : FileTree} {bytes : ByteArray} (found : root.locate path = .ok node)
    (named : ∀ name ∈ names, IsName name) (below : node.find? names = some (.file bytes)) :
    root.readText (path.below names) =
      if isTooLong (path.below names) then .error .nameTooLong else textOf bytes := by
  by_cases long : isTooLong (path.below names) = true
  · obtain ⟨nulless, _, nonempty⟩ := checked_of_locate found
    have nulless := Path.nulless_below nonempty nulless named
    have refused : checkPath (path.below names) = .error .nameTooLong := by
      rw [checkPath, String.contains_char_eq, if_neg (by simp [nulless]), if_pos long]
    rw [if_pos long, readText, locate, resolve, refused]
    rfl
  · rw [if_neg long, readText, locate_below found named below (Bool.eq_false_of_not_eq_true long)]
    rfl

end BlankLines.FileTree
