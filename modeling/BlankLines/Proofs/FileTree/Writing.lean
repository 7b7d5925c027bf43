import BlankLines.Proofs.FileTree.Following

/-!
Writing a file. What stands at a place is nothing, a directory or a file with its bytes; writing changes
that at the one place that the path leads to.
-/
namespace BlankLines.FileTree

variable {root changed : FileTree} {path : Path} {name part text : String}
  {names place next : List String} {entries : List (String × FileTree)}

theorem put_directory (node : FileTree) : (directory entries).put (name :: names) node =
    directory (Keyed.put entries name (((Keyed.get? entries name).getD empty).put names node)) := by
  rw [put]

theorem kindAt_directory_put (node : FileTree) (other : String) :
    (directory (Keyed.put entries name node)).kindAt (other :: names) =
      if other = name then node.kindAt names else (directory entries).kindAt (other :: names) := by
  rw [kindAt_directory, kindAt_directory, Keyed.get?_put]
  split <;> rfl

/-- Below a name that is not that of a directory nothing stands. -/
theorem kindAt_below_none (room : root.kindAt [name] ≠ some .directory) :
    root.kindAt (name :: part :: names) = none := by
  cases root with
  | file bytes => rfl
  | directory entries =>
    rw [kindAt_directory] at room ⊢
    cases entry : Keyed.get? entries name with
    | none => rfl
    | some node =>
      rw [entry, Option.bind_some, kindAt_nil] at room
      cases node with
      | file bytes => rfl
      | directory inner => exact absurd rfl room

/-- A file that is put into a directory is the one thing that changes. -/
theorem kindAt_put (held : root.kindAt names = some .directory)
    (room : root.kindAt (names ++ [name]) ≠ some .directory) (bytes : ByteArray) (place : List String) :
    (root.put (names ++ [name]) (.file bytes)).kindAt place =
      if place = names ++ [name] then some (.file bytes) else root.kindAt place := by
  induction names generalizing root place with
  | nil =>
    obtain ⟨entries, found⟩ := kindAt_eq_directory_iff.mp held
    obtain rfl := Option.some.inj ((find?_nil root).symm.trans found)
    rw [List.nil_append, put_directory, put]
    cases place with
    | nil => rfl
    | cons other rest =>
      rw [kindAt_directory_put]
      by_cases same : other = name
      · subst same
        rw [if_pos rfl]
        cases rest with
        | nil => rw [if_pos rfl, kindAt_nil, kind]
        | cons part rest => rw [if_neg (by simp), kindAt_below_none room]; rfl
      · rw [if_neg same, if_neg (by simp [same])]
  | cons first names ih =>
    cases root with
    | file bytes => cases held
    | directory entries =>
      rw [kindAt_directory] at held
      obtain ⟨inner, entry, below⟩ := Option.bind_eq_some_iff.mp held
      rw [List.cons_append, kindAt_directory, entry, Option.bind_some] at room
      rw [List.cons_append, put_directory, entry, Option.getD_some]
      cases place with
      | nil => rfl
      | cons other rest =>
        rw [kindAt_directory_put]
        by_cases same : other = first
        · subst same
          rw [if_pos rfl, ih below room, kindAt_directory, entry, Option.bind_some]
          simp
        · rw [if_neg same, if_neg (by simp [same])]

/-- A path that led somewhere still does where nothing has gone. -/
theorem follow_of_kindAt {parts : List String}
    (directories : ∀ names, root.kindAt names = some .directory → changed.kindAt names = some .directory)
    (kept : ∀ names, (root.kindAt names).isSome → (changed.kindAt names).isSome)
    (followed : root.follow names parts = .ok next) : changed.follow names parts = .ok next := by
  induction parts generalizing names with
  | nil => exact followed
  | cons part parts ih =>
    obtain ⟨middle, stepped, rest⟩ := bind_eq_ok_iff.mp followed
    refine bind_eq_ok_iff.mpr ⟨middle, ?_, ih rest⟩
    obtain ⟨held, leads⟩ := step_eq_ok_iff.mp stepped
    refine step_eq_ok_iff.mpr ⟨directories _ held, ?_⟩
    split_ifs at leads ⊢
    · exact leads
    · exact leads
    · exact ⟨leads.1, kept _ leads.2.1, leads.2.2⟩

/-- What a write that succeeds does: it puts a file into the directory that the path leads to. -/
theorem exists_put_of_writeText (written : root.writeText path text = .ok changed) :
    ∃ names name, path.parts = path.parts.dropLast ++ [name] ∧ checkPath path = .ok () ∧
      root.follow [] path.parts.dropLast = .ok names ∧
      (name ≠ "" ∧ name ≠ "." ∧ name ≠ ".." ∧ name.utf8ByteSize ≤ maxNameSize) ∧
      root.kindAt names = some .directory ∧ root.kindAt (names ++ [name]) ≠ some .directory ∧
      changed = root.put (names ++ [name]) (.file text.toUTF8) := by
  rw [writeText] at written
  obtain ⟨⟨⟩, checked, written⟩ := bind_eq_ok_iff.mp written
  obtain ⟨names, followed, written⟩ := bind_eq_ok_iff.mp written
  refine ⟨names, _, path.parts_eq_append, checked, followed, ?_⟩
  generalize path.parts.getLast?.getD "" = name at written
  dsimp only at written
  split at written
  · next entries found =>
    split at written
    · cases written
    · next named =>
      split at written
      · cases written
      · next short =>
        have room : (∀ inner, Keyed.get? entries name ≠ some (.directory inner)) ∧
            changed = root.put (names ++ [name]) (.file text.toUTF8) := by
          split at written
          · cases written
          · next clear => exact ⟨fun inner held => clear inner held, (Except.ok.inj written).symm⟩
        refine ⟨?_, kindAt_eq_directory_iff.mpr ⟨entries, found⟩, ?_, room.2⟩
        · simp only [Bool.or_eq_true, decide_eq_true_eq, not_or] at named
          exact ⟨named.1.1, named.1.2, named.2, Nat.le_of_not_lt short⟩
        · rw [kindAt_append, found, Option.bind_some, kindAt_directory]
          intro held
          obtain ⟨node, entry, kinds⟩ := Option.bind_eq_some_iff.mp held
          obtain ⟨inner, found⟩ := kindAt_eq_directory_iff.mp kinds
          obtain rfl := Option.some.inj ((find?_nil node).symm.trans found)
          exact room.1 inner entry
  · cases written
  · cases written

/-- A write changes what stands at one place, and the path leads there. -/
theorem exists_place_of_writeText (written : root.writeText path text = .ok changed) :
    ∃ place, changed.resolve path = .ok place ∧ ∀ names, changed.kindAt names =
      if names = place then some (.file text.toUTF8) else root.kindAt names := by
  obtain ⟨names, name, parts, checked, followed, named, held, room, rfl⟩ :=
    exists_put_of_writeText written
  obtain ⟨nonempty, notHere, notAbove, short⟩ := named
  have kinds := kindAt_put held room text.toUTF8
  refine ⟨names ++ [name], ?_, kinds⟩
  have directories (place : List String) (held : root.kindAt place = some .directory) :
      (root.put (names ++ [name]) (.file text.toUTF8)).kindAt place = some .directory := by
    rw [kinds, if_neg, held]
    rintro rfl
    exact room held
  have kept (place : List String) (some : (root.kindAt place).isSome) :
      ((root.put (names ++ [name]) (.file text.toUTF8)).kindAt place).isSome := by
    rw [kinds]
    split
    · rfl
    · exact some
  have last : step (root.put (names ++ [name]) (.file text.toUTF8)) names name = .ok (names ++ [name]) := by
    rw [step_eq_ok_iff, if_neg (by simp [nonempty, notHere]), if_neg notAbove, kinds (names ++ [name]),
      if_pos rfl]
    exact ⟨directories names held, short, rfl, rfl⟩
  rw [resolve, checked, parts, follow_append]
  refine bind_eq_ok_iff.mpr ⟨(), rfl, bind_eq_ok_iff.mpr ⟨names, ?_, ?_⟩⟩
  · exact follow_of_kindAt directories kept followed
  · exact bind_eq_ok_iff.mpr ⟨_, last, rfl⟩

end BlankLines.FileTree
