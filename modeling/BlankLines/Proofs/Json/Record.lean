import BlankLines.Proofs.Json.Scalar

/-!
Lists and objects read back. A reader that takes each item or member from its compact form takes them all
from the compact form of the list or object, if its bound on steps is above their number.
-/
namespace BlankLines.Json

variable {α σ : Type}

/-- The written form of items behind another one, each with the comma in front. -/
def laterItems (items : List Value) : List Char :=
  items.flatMap fun item => ',' :: compact item

/-- The written form of members behind another one, each with the comma in front. -/
def laterMembers (members : List (String × Value)) : List Char :=
  members.flatMap fun (name, item) => ',' :: (printText name ++ ':' :: compact item)

theorem compactItems_cons (item : Value) (items : List Value) :
    compactItems (item :: items) = compact item ++ laterItems items := by
  induction items generalizing item with
  | nil => simp [compactItems, laterItems]
  | cons next items ih =>
    rw [compactItems, ih, laterItems, laterItems, List.flatMap_cons]
    · rfl
    · simp

theorem compactMembers_cons (name : String) (item : Value) (members : List (String × Value)) :
    compactMembers ((name, item) :: members) =
      printText name ++ ':' :: (compact item ++ laterMembers members) := by
  induction members generalizing name item with
  | nil => simp [compactMembers, laterMembers]
  | cons next members ih =>
    obtain ⟨nextName, nextItem⟩ := next
    rw [compactMembers, ih, laterMembers, laterMembers, List.flatMap_cons]
    · simp
    · simp

theorem compact_object (members : List (String × Value)) (rest : List Char) :
    compact (.object members) ++ rest = '\x7b' :: (compactMembers members ++ '\x7d' :: rest) := by
  simp [compact]

theorem compact_array (items : List Value) (rest : List Char) :
    compact (.array items) ++ rest = '[' :: (compactItems items ++ ']' :: rest) := by
  simp [compact]

/-- Items of objects behind others, up to the bracket. -/
theorem readItems_laterItems {item : Reader α} {members : α → List (String × Value)} {items : List α}
    (reads : ∀ x ∈ items, ∀ rest, item (compact (.object (members x)) ++ rest) = .ok (x, rest))
    {bound : Nat} (enough : items.length < bound) (done : List α) (rest : List Char) :
    readItems item bound false done
        (laterItems (items.map fun x => .object (members x)) ++ ']' :: rest) =
      .ok (done.reverse ++ items, rest) := by
  induction items generalizing bound done with
  | nil =>
    obtain ⟨bound, rfl⟩ := Nat.exists_eq_add_one_of_ne_zero (Nat.ne_of_gt enough)
    simp [readItems, nextItem, endList, laterItems, skipSpace, isSpace, bind, Except.bind, pure,
      Except.pure]
  | cons x items ih =>
    obtain ⟨bound, rfl⟩ := Nat.exists_eq_add_one_of_ne_zero (Nat.ne_zero_of_lt enough)
    have first := reads x List.mem_cons_self
    have later := fun y member => reads y (List.mem_cons_of_mem x member)
    have text : laterItems ((x :: items).map fun x => .object (members x)) ++ ']' :: rest =
        ',' :: (compact (.object (members x)) ++
          (laterItems (items.map fun x => .object (members x)) ++ ']' :: rest)) := by
      simp [laterItems]
    have more : nextItem false (laterItems ((x :: items).map fun x => .object (members x)) ++
        ']' :: rest) = .ok (true, compact (.object (members x)) ++
          (laterItems (items.map fun x => .object (members x)) ++ ']' :: rest)) := by
      rw [text, compact_object]
      simp [nextItem, skipSpace, isSpace]
    rw [readItems, more]
    simp only [bind, Except.bind, if_true, first]
    rw [ih later (Nat.lt_of_succ_lt_succ enough), List.reverse_cons, List.append_assoc,
      List.singleton_append]

theorem readList_bracket (bound : Nat) (item : Reader α) (text : List Char) :
    readList bound item ('[' :: text) = readItems item bound true [] text :=
  rfl

theorem readList_compact {item : Reader α} {members : α → List (String × Value)} {items : List α}
    (reads : ∀ x ∈ items, ∀ rest, item (compact (.object (members x)) ++ rest) = .ok (x, rest))
    {bound : Nat} (enough : items.length < bound) (rest : List Char) :
    readList bound item (compact (.array (items.map fun x => .object (members x))) ++ rest) =
      .ok (items, rest) := by
  rw [compact_array, readList_bracket]
  cases items with
  | nil =>
    obtain ⟨bound, rfl⟩ := Nat.exists_eq_add_one_of_ne_zero (Nat.ne_of_gt enough)
    simp [readItems, nextItem, endList, compactItems, skipSpace, isSpace, bind, Except.bind,
      pure, Except.pure]
  | cons x items =>
    obtain ⟨bound, rfl⟩ := Nat.exists_eq_add_one_of_ne_zero (Nat.ne_zero_of_lt enough)
    have first := reads x List.mem_cons_self
    have later := fun y member => reads y (List.mem_cons_of_mem x member)
    have rests := readItems_laterItems later (Nat.lt_of_succ_lt_succ enough) [x] rest
    have more : nextItem true (compact (.object (members x)) ++
        (laterItems (items.map fun x => .object (members x)) ++ ']' :: rest)) =
        .ok (true, compact (.object (members x)) ++
          (laterItems (items.map fun x => .object (members x)) ++ ']' :: rest)) := by
      rw [compact_object]
      simp [nextItem, skipSpace, isSpace]
    rw [List.map_cons, compactItems_cons, List.append_assoc, readItems, more]
    simp only [bind, Except.bind, if_true, first]
    exact rests

/-- From one state to another, a reader of members takes these one after the other. -/
inductive Takes (field : σ → String → Reader σ) : σ → List (String × Value) → σ → Prop where
  | nil (state : σ) : Takes field state [] state
  | cons {state last : σ} {name : String} {item : Value} {members : List (String × Value)} (next : σ)
      (takes : ∀ rest, endsNumber rest = true →
        field state name (':' :: (compact item ++ rest)) = .ok (next, rest))
      (later : Takes field next members last) : Takes field state ((name, item) :: members) last

variable {field : σ → String → Reader σ} {state next last : σ} {members more : List (String × Value)}
  {bound : Nat}

theorem Takes.append (first : Takes field state members next) (second : Takes field next more last) :
    Takes field state (members ++ more) last := by
  induction first with
  | nil => exact second
  | cons middle takes _ ih => exact .cons middle takes (ih second)

theorem memberName_printText (name : String) (rest : List Char) :
    memberName (name.toList.flatMap escaped ++ '"' :: rest) = .ok (some name, rest) := by
  simp [memberName, textTail_printText, bind, Except.bind, pure, Except.pure]

theorem endsNumber_laterMembers (members : List (String × Value)) (rest : List Char) :
    endsNumber (laterMembers members ++ '\x7d' :: rest) = true := by
  cases members <;> rfl

theorem readMembers_laterMembers (taken : Takes field state members last)
    (enough : members.length < bound) (rest : List Char) :
    readMembers field bound false state (laterMembers members ++ '\x7d' :: rest) =
      .ok (last, rest) := by
  induction taken generalizing bound with
  | nil state =>
    obtain ⟨bound, rfl⟩ := Nat.exists_eq_add_one_of_ne_zero (Nat.ne_of_gt enough)
    simp [readMembers, nextMember, laterMembers, skipSpace, isSpace, bind, Except.bind, pure,
      Except.pure]
  | @cons state last name item members next takes _ ih =>
    obtain ⟨bound, rfl⟩ := Nat.exists_eq_add_one_of_ne_zero (Nat.ne_zero_of_lt enough)
    have text : laterMembers ((name, item) :: members) ++ '\x7d' :: rest = ',' :: (printText name ++
        ':' :: (compact item ++ (laterMembers members ++ '\x7d' :: rest))) := by
      simp [laterMembers]
    have named : nextMember false (laterMembers ((name, item) :: members) ++ '\x7d' :: rest) =
        .ok (some name, ':' :: (compact item ++ (laterMembers members ++ '\x7d' :: rest))) := by
      rw [text, printText_append]
      simp [nextMember, skipSpace, isSpace, memberName_printText]
    rw [readMembers, named]
    simp only [bind, Except.bind, takes _ (endsNumber_laterMembers members rest)]
    exact ih (Nat.lt_of_succ_lt_succ enough)

theorem readMembers_compactMembers (taken : Takes field state members last)
    (enough : members.length < bound) (rest : List Char) :
    readMembers field bound true state (compactMembers members ++ '\x7d' :: rest) =
      .ok (last, rest) := by
  obtain ⟨bound, rfl⟩ := Nat.exists_eq_add_one_of_ne_zero (Nat.ne_zero_of_lt enough)
  cases taken with
  | nil =>
    simp [readMembers, nextMember, compactMembers, skipSpace, isSpace, bind, Except.bind, pure,
      Except.pure]
  | @cons _ _ name item members next takes later =>
    have named : nextMember true (compactMembers ((name, item) :: members) ++ '\x7d' :: rest) =
        .ok (some name, ':' :: (compact item ++ (laterMembers members ++ '\x7d' :: rest))) := by
      rw [compactMembers_cons, List.append_assoc, printText_append]
      simp [nextMember, skipSpace, isSpace, memberName_printText]
    rw [readMembers, named]
    simp only [bind, Except.bind, takes _ (endsNumber_laterMembers members rest)]
    exact readMembers_laterMembers later (Nat.lt_of_succ_lt_succ enough) rest

theorem readRecord_brace (named listed : Reader α) (text : List Char) :
    readRecord named listed ('\x7b' :: text) = named text :=
  rfl

end BlankLines.Json
