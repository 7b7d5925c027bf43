import BlankLines.Proofs.Json.Record

/-!
Values of any shape read back from their indented text. The bound on steps that a reader starts with is
above the length of its text, and every step of reading leaves more of the text behind than of the bound.
-/
namespace BlankLines.Json

/-- The numbers in a value are natural numbers of 64 bits. -/
inductive Value.InWords : Value → Prop
  | null : InWords .null
  | bool (b : Bool) : InWords (.bool b)
  | ofNat {n : Nat} (word : n < Word.size) : InWords (.ofNat n)
  | string (s : String) : InWords (.string s)
  | array {items : List Value} (inner : ∀ item ∈ items, item.InWords) : InWords (.array items)
  | object {members : List (String × Value)} (inner : ∀ member ∈ members, member.2.InWords) :
    InWords (.object members)

/-- The lines of items behind another one, each with the comma that ends the line before it. -/
def laterLines (depth : Nat) (items : List Value) : List Char :=
  items.flatMap fun item => ',' :: (indent depth ++ prettyAt depth item)

/-- The lines of members behind another one, each with the comma that ends the line before it. -/
def laterNamedLines (depth : Nat) (members : List (String × Value)) : List Char :=
  members.flatMap fun (name, item) =>
    ',' :: (indent depth ++ (printText name ++ ':' :: ' ' :: prettyAt depth item))

theorem prettyItems_cons (depth : Nat) (item : Value) (items : List Value) :
    prettyItems depth (item :: items) = indent depth ++ prettyAt depth item ++ laterLines depth items := by
  induction items generalizing item with
  | nil => simp [prettyItems, laterLines]
  | cons next items ih =>
    rw [prettyItems, ih, laterLines, laterLines, List.flatMap_cons]
    · simp
    · simp

theorem prettyMembers_cons (depth : Nat) (member : String × Value) (members : List (String × Value)) :
    prettyMembers depth (member :: members) =
      indent depth ++ (printText member.1 ++ ':' :: ' ' :: prettyAt depth member.2) ++
        laterNamedLines depth members := by
  induction members generalizing member with
  | nil => simp [prettyMembers, laterNamedLines]
  | cons next members ih =>
    rw [prettyMembers, ih, laterNamedLines, laterNamedLines, List.flatMap_cons]
    · simp
    · simp

variable {depth bound : Nat} {text rest : List Char} {c : Char}

theorem skipSpace_indent (depth : Nat) (text : List Char) :
    skipSpace (indent depth ++ text) = skipSpace text := by
  rw [indent, List.cons_append, skipSpace, List.dropWhile_cons_of_pos rfl,
    List.dropWhile_append_of_pos]
  · rfl
  · intro c member
    rw [List.eq_of_mem_replicate member]
    rfl

theorem skipSpace_cons (visible : isSpace c = false) (text : List Char) :
    skipSpace (c :: text) = c :: text :=
  List.dropWhile_cons_of_neg (by simp [visible])

/-- What begins neither with white space nor with the bracket of a list. -/
def StartsItem (text : List Char) : Prop :=
  ∃ c more, text = c :: more ∧ isSpace c = false ∧ c ≠ ']'

theorem startsItem_prettyAt {v : Value} (words : v.InWords) (depth : Nat) :
    StartsItem (prettyAt depth v) := by
  cases words with
  | null => exact ⟨'n', _, by rw [prettyAt], rfl, by decide⟩
  | bool b => cases b <;> exact ⟨_, _, by rw [prettyAt], rfl, by decide⟩
  | ofNat word =>
    obtain ⟨c, more, digits, first⟩ := exists_printNumber_ofNat _
    refine ⟨c, more, by rw [Value.ofNat, prettyAt, digits], isSpace_of_isDigit first, ?_⟩
    rintro rfl
    simp at first
  | string s => exact ⟨'"', _, by rw [prettyAt, printText, List.cons_append], rfl, by decide⟩
  | @array items inner =>
    cases items with
    | nil => exact ⟨'[', _, by rw [prettyAt], rfl, by decide⟩
    | cons item items => exact ⟨'[', _, by rw [prettyAt]; rfl, rfl, by decide⟩
  | @object members inner =>
    cases members with
    | nil => exact ⟨'\x7b', _, by rw [prettyAt], rfl, by decide⟩
    | cons member members => exact ⟨'\x7b', _, by rw [prettyAt]; rfl, rfl, by decide⟩

/-- What stands in front of an item: a comma, unless it is the first. -/
def separator (first : Bool) : List Char :=
  if first then [] else [',']

theorem nextItem_item (starts : StartsItem text) (first : Bool) (depth : Nat) :
    nextItem first (separator first ++ (indent depth ++ text)) = .ok (true, text) := by
  obtain ⟨c, more, rfl, visible, inner⟩ := starts
  have skipped := (skipSpace_indent depth (c :: more)).trans (skipSpace_cons visible more)
  cases first with
  | true => simp [nextItem, separator, skipped]
  | false => simp [nextItem, separator, skipSpace_cons, isSpace, skipped, inner]

theorem nextItem_bracket (first : Bool) (space : skipSpace text = ']' :: rest) :
    nextItem first text = .ok (false, ']' :: rest) := by
  simp [nextItem, space]

theorem nextMember_member (first : Bool) (depth : Nat) (name : String) (rest : List Char) :
    nextMember first (separator first ++ (indent depth ++ (printText name ++ rest))) =
      .ok (some name, rest) := by
  have read := memberName_printText name rest
  have skipped := skipSpace_indent depth (printText name ++ rest)
  rw [printText_append, skipSpace_cons (by rfl : isSpace '"' = false)] at skipped
  rw [printText_append]
  cases first with
  | true => simp [nextMember, separator, skipped, read]
  | false => simp [nextMember, separator, skipSpace_cons, isSpace, skipped, read]

theorem nextMember_brace (first : Bool) (space : skipSpace text = '\x7d' :: rest) :
    nextMember first text = .ok (none, rest) := by
  simp [nextMember, space]

/-- At any depth, a value is read from its indented text in front of what does not continue a number. -/
def ReadsBack (v : Value) : Prop :=
  ∀ depth bound rest, (prettyAt depth v).length ≤ bound → endsNumber rest = true →
    value bound (prettyAt depth v ++ rest) = .ok (v, rest)

variable {v : Value} {items done : List Value} {members : List (String × Value)} {name : String}

theorem values_item (reads : ReadsBack v) (starts : StartsItem (prettyAt depth v))
    (enough : (prettyAt depth v).length ≤ bound) (ends : endsNumber rest = true) (first : Bool)
    (done : List Value) :
    values (bound + 1) first done (separator first ++ (indent depth ++ (prettyAt depth v ++ rest))) =
      values bound false (v :: done) rest := by
  have starts : StartsItem (prettyAt depth v ++ rest) := by
    obtain ⟨c, more, text, visible⟩ := starts
    exact ⟨c, more ++ rest, by rw [text, List.cons_append], visible⟩
  rw [values, nextItem_item starts]
  simp only [bind, Except.bind, if_true, reads depth bound rest enough ends]

theorem endsNumber_laterLines (depth outer : Nat) (items : List Value) (rest : List Char) :
    endsNumber (laterLines depth items ++ (indent outer ++ rest)) = true := by
  cases items <;> rfl

theorem length_laterLines_cons (depth : Nat) (item : Value) (items : List Value) :
    (prettyAt depth item).length + (laterLines depth items).length + 1 <
      (laterLines depth (item :: items)).length := by
  simp only [laterLines, indent, List.flatMap_cons, List.length_append, List.length_cons]
  omega

/-- Items behind others are read up to the bracket on its own line. -/
theorem values_laterLines (inner : ∀ item ∈ items, item.InWords ∧ ReadsBack item)
    (enough : (laterLines depth items).length < bound) (outer : Nat) (done : List Value)
    (rest : List Char) :
    values bound false done (laterLines depth items ++ (indent outer ++ ']' :: rest)) =
      .ok (done.reverse ++ items, rest) := by
  induction items generalizing bound done with
  | nil =>
    obtain ⟨bound, rfl⟩ := Nat.exists_eq_add_one_of_ne_zero (Nat.ne_zero_of_lt enough)
    have space := (skipSpace_indent outer (']' :: rest)).trans (skipSpace_cons rfl rest)
    simp [values, laterLines, nextItem_bracket false space, endList, skipSpace_cons, isSpace, bind,
      Except.bind, pure, Except.pure]
  | cons item items ih =>
    obtain ⟨bound, rfl⟩ := Nat.exists_eq_add_one_of_ne_zero (Nat.ne_zero_of_lt enough)
    obtain ⟨⟨words, reads⟩, later⟩ := List.forall_mem_cons.mp inner
    have size := length_laterLines_cons depth item items
    have text : laterLines depth (item :: items) ++ (indent outer ++ ']' :: rest) =
        separator false ++ (indent depth ++ (prettyAt depth item ++
          (laterLines depth items ++ (indent outer ++ ']' :: rest)))) := by
      simp [laterLines, separator]
    rw [text, values_item reads (startsItem_prettyAt words depth) (by omega)
      (endsNumber_laterLines depth outer items _), ih later (by omega)]
    simp

theorem value_bracket (listed : values bound true [] text = .ok (items, rest)) :
    value (bound + 1) ('[' :: text) = .ok (.array items, rest) := by
  simp [value, skipSpace_cons, isSpace, listed, bind, Except.bind, pure, Except.pure]

theorem value_brace (named : namedValues bound true [] text = .ok (members, rest)) :
    value (bound + 1) ('\x7b' :: text) = .ok (.object members, rest) := by
  simp [value, skipSpace_cons, isSpace, named, bind, Except.bind, pure, Except.pure]

theorem readsBack_array (inner : ∀ item ∈ items, item.InWords ∧ ReadsBack item) :
    ReadsBack (.array items) := by
  intro depth bound rest enough _
  obtain ⟨bound, rfl⟩ : ∃ more, bound = more + 2 := by
    refine ⟨bound - 2, ?_⟩
    cases items <;> simp [prettyAt] at enough <;> omega
  cases items with
  | nil =>
    rw [prettyAt]
    refine value_bracket ?_
    have space := skipSpace_cons (by rfl : isSpace ']' = false) rest
    simp [values, nextItem_bracket true space, endList, space, bind, Except.bind, pure, Except.pure]
  | cons item items =>
    obtain ⟨⟨words, reads⟩, later⟩ := List.forall_mem_cons.mp inner
    have text : prettyAt depth (.array (item :: items)) ++ rest = '[' :: (separator true ++
        (indent (depth + 1) ++ (prettyAt (depth + 1) item ++
          (laterLines (depth + 1) items ++ (indent depth ++ ']' :: rest))))) := by
      simp [prettyAt, prettyItems_cons, separator]
    have size : (prettyAt (depth + 1) item).length + (laterLines (depth + 1) items).length + 2 <
        (prettyAt depth (.array (item :: items))).length := by
      simp [prettyAt, prettyItems_cons, indent]
      omega
    rw [text]
    refine value_bracket ?_
    rw [values_item reads (startsItem_prettyAt words _) (by omega)
      (endsNumber_laterLines _ _ items _), values_laterLines later (by omega)]
    rfl

theorem namedValues_member (reads : ReadsBack v) (enough : (prettyAt depth v).length ≤ bound)
    (ends : endsNumber rest = true) (first : Bool) (done : List (String × Value)) :
    namedValues (bound + 1) first done (separator first ++ (indent depth ++
        (printText name ++ ':' :: ' ' :: (prettyAt depth v ++ rest)))) =
      namedValues bound false ((name, v) :: done) rest := by
  have spaced : value bound (' ' :: (prettyAt depth v ++ rest)) = .ok (v, rest) := by
    rw [← reads depth bound rest enough ends]
    cases bound with
    | zero => rw [value, value]
    | succ bound => rw [value, value, skipSpace, skipSpace, List.dropWhile_cons_of_pos rfl]
  rw [namedValues, nextMember_member]
  simp [bind, Except.bind, colon, skipSpace_cons, isSpace, spaced]

theorem endsNumber_laterNamedLines (depth outer : Nat) (members : List (String × Value))
    (rest : List Char) :
    endsNumber (laterNamedLines depth members ++ (indent outer ++ rest)) = true := by
  cases members <;> rfl

theorem length_laterNamedLines_cons (depth : Nat) (member : String × Value)
    (members : List (String × Value)) :
    (prettyAt depth member.2).length + (laterNamedLines depth members).length + 1 <
      (laterNamedLines depth (member :: members)).length := by
  simp only [laterNamedLines, indent, List.flatMap_cons, List.length_append, List.length_cons]
  omega

/-- Members behind others are read up to the brace on its own line. -/
theorem namedValues_laterNamedLines (inner : ∀ member ∈ members, ReadsBack member.2)
    (enough : (laterNamedLines depth members).length < bound) (outer : Nat)
    (done : List (String × Value)) (rest : List Char) :
    namedValues bound false done (laterNamedLines depth members ++ (indent outer ++ '\x7d' :: rest)) =
      .ok (done.reverse ++ members, rest) := by
  induction members generalizing bound done with
  | nil =>
    obtain ⟨bound, rfl⟩ := Nat.exists_eq_add_one_of_ne_zero (Nat.ne_zero_of_lt enough)
    have space := (skipSpace_indent outer ('\x7d' :: rest)).trans (skipSpace_cons rfl rest)
    simp [namedValues, laterNamedLines, nextMember_brace false space, bind, Except.bind, pure,
      Except.pure]
  | cons member members ih =>
    obtain ⟨bound, rfl⟩ := Nat.exists_eq_add_one_of_ne_zero (Nat.ne_zero_of_lt enough)
    obtain ⟨reads, later⟩ := List.forall_mem_cons.mp inner
    have size := length_laterNamedLines_cons depth member members
    have text : laterNamedLines depth (member :: members) ++ (indent outer ++ '\x7d' :: rest) =
        separator false ++ (indent depth ++ (printText member.1 ++ ':' :: ' ' ::
          (prettyAt depth member.2 ++
            (laterNamedLines depth members ++ (indent outer ++ '\x7d' :: rest))))) := by
      simp [laterNamedLines, separator]
    rw [text, namedValues_member reads (by omega) (endsNumber_laterNamedLines depth outer members _),
      ih later (by omega)]
    simp

theorem readsBack_object (inner : ∀ member ∈ members, ReadsBack member.2) :
    ReadsBack (.object members) := by
  intro depth bound rest enough _
  obtain ⟨bound, rfl⟩ : ∃ more, bound = more + 2 := by
    refine ⟨bound - 2, ?_⟩
    cases members <;> simp [prettyAt] at enough <;> omega
  cases members with
  | nil =>
    rw [prettyAt]
    refine value_brace ?_
    have space := skipSpace_cons (by rfl : isSpace '\x7d' = false) rest
    simp [namedValues, nextMember_brace true space, bind, Except.bind, pure, Except.pure]
  | cons member members =>
    obtain ⟨reads, later⟩ := List.forall_mem_cons.mp inner
    have text : prettyAt depth (.object (member :: members)) ++ rest = '\x7b' :: (separator true ++
        (indent (depth + 1) ++ (printText member.1 ++ ':' :: ' ' :: (prettyAt (depth + 1) member.2 ++
          (laterNamedLines (depth + 1) members ++ (indent depth ++ '\x7d' :: rest)))))) := by
      simp [prettyAt, prettyMembers_cons, separator]
    have size : (prettyAt (depth + 1) member.2).length +
        (laterNamedLines (depth + 1) members).length + 2 <
          (prettyAt depth (.object (member :: members))).length := by
      simp [prettyAt, prettyMembers_cons, indent]
      omega
    rw [text]
    refine value_brace ?_
    rw [namedValues_member reads (by omega) (endsNumber_laterNamedLines _ _ members _),
      namedValues_laterNamedLines later (by omega)]
    rfl

theorem readsBack_ofNat {n : Nat} (word : n < Word.size) : ReadsBack (.ofNat n) := by
  intro depth bound rest enough ends
  have read := numberTail_toDigits word ends
  obtain ⟨c, more, digits, first⟩ := exists_printNumber_ofNat n
  have start : skipSpace (c :: (more ++ rest)) = c :: (more ++ rest) :=
    skipSpace_cons (isSpace_of_isDigit first) _
  have others : c ≠ 'n' ∧ c ≠ 't' ∧ c ≠ 'f' ∧ c ≠ '-' := by
    refine ⟨?_, ?_, ?_, ?_⟩ <;> (rintro rfl; simp at first)
  rw [← printNumber_ofNat, digits, List.cons_append] at read
  rw [Value.ofNat, prettyAt, digits] at enough ⊢
  obtain ⟨bound, rfl⟩ := Nat.exists_eq_add_one_of_ne_zero (Nat.ne_zero_of_lt enough)
  simp [value, start, others, first, read, bind, Except.bind, pure, Except.pure]

theorem readsBack_string (s : String) : ReadsBack (.string s) := by
  intro depth bound rest enough _
  rw [prettyAt] at enough ⊢
  obtain ⟨bound, rfl⟩ := Nat.exists_eq_add_one_of_ne_zero (Nat.ne_zero_of_lt enough)
  simp [value, printText_append, skipSpace_cons, isSpace, textTail_printText, bind, Except.bind, pure,
    Except.pure]

theorem readsBack_bool (b : Bool) : ReadsBack (.bool b) := by
  intro depth bound rest enough _
  cases b
  all_goals
    rw [prettyAt] at enough ⊢
    obtain ⟨bound, rfl⟩ := Nat.exists_eq_add_one_of_ne_zero (Nat.ne_zero_of_lt enough)
    simp [value, skipSpace_cons, isSpace, trueTail, falseTail, letters, bind, Except.bind, pure,
      Except.pure]

theorem readsBack_null : ReadsBack .null := by
  intro depth bound rest enough _
  rw [prettyAt] at enough ⊢
  obtain ⟨bound, rfl⟩ := Nat.exists_eq_add_one_of_ne_zero (Nat.ne_zero_of_lt enough)
  simp [value, skipSpace_cons, isSpace, nullTail, letters, bind, Except.bind, pure, Except.pure]

/-- A value without other numbers than words is read back from its indented text. -/
theorem Value.InWords.readsBack (words : v.InWords) : ReadsBack v := by
  induction words with
  | null => exact readsBack_null
  | bool b => exact readsBack_bool b
  | ofNat word => exact readsBack_ofNat word
  | string s => exact readsBack_string s
  | array inner ih => exact readsBack_array fun item member => ⟨inner item member, ih item member⟩
  | object _ ih => exact readsBack_object ih

theorem endsNumber_of_space (space : ∀ c ∈ text, isSpace c = true) : endsNumber text = true := by
  cases text with
  | nil => rfl
  | cons c more =>
    have first := space c List.mem_cons_self
    simp only [isSpace, Bool.or_eq_true, decide_eq_true_eq] at first
    rcases first with ((rfl | rfl) | rfl) | rfl <;> rfl

/-- White space may follow the indented text of a value. -/
theorem parse_toPrettyText_append (words : v.InWords) (space : ∀ c ∈ text, isSpace c = true) :
    parse (v.toPrettyText ++ String.ofList text) = .ok v := by
  have blank : skipSpace text = [] := by
    have all : (text ++ []).dropWhile isSpace = [].dropWhile isSpace :=
      List.dropWhile_append_of_pos space
    rwa [List.append_nil] at all
  have chars : (v.toPrettyText ++ String.ofList text).toList = prettyAt 0 v ++ text := by
    rw [String.toList_append, Value.toPrettyText, String.toList_ofList, String.toList_ofList]
  have enough : (prettyAt 0 v).length ≤ stepBound (prettyAt 0 v ++ text) := by
    rw [stepBound, List.length_append]
    omega
  rw [parse, chars, readAll, words.readsBack 0 _ text enough (endsNumber_of_space space)]
  simp [bind, Except.bind, blank, pure, Except.pure]

end BlankLines.Json
