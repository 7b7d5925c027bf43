import BlankLines.Glob
import Mathlib.Data.List.Forall2

/-!
What a pattern takes, told from its text. The text is read one step at a time, and each step leaves some
of what it is matched against to the steps behind it.
-/
namespace BlankLines.Glob

/-- The characters that begin a step of their own. Any other one stands for itself. -/
def IsWild (c : Char) : Prop :=
  c = '?' ∨ c = '*' ∨ c = '['

instance (c : Char) : Decidable (IsWild c) :=
  inferInstanceAs (Decidable (_ ∨ _))

/-- The step that a pattern begins with, and the text after it. `fills` and `fills'` say whether nothing or
a slash stands before the one and the other. -/
inductive Reads : Bool → List Char → Part → Bool → List Char → Prop
  | char {fills : Bool} {c : Char} {rest : List Char} (tame : ¬ IsWild c) :
    Reads fills (c :: rest) (.char c) (c = '/') rest
  | anyChar {fills : Bool} {rest : List Char} : Reads fills ('?' :: rest) .anyChar false rest
  | anySequence {fills : Bool} {rest : List Char} (alone : rest.head? ≠ some '*') :
    Reads fills ('*' :: rest) .anySequence false rest
  | anyDirectories {rest : List Char} :
    Reads true ('*' :: '*' :: '/' :: rest) .anyDirectories true rest
  | lastDirectories : Reads true ['*', '*'] .anyDirectories true []
  | oneOf {fills : Bool} {text rest : List Char} {part : Part}
      (read : readClass text = some (part, rest)) : Reads fills ('[' :: text) part false rest

/-- What a step may leave of a text. -/
inductive Part.Leaves : Part → List Char → List Char → Prop
  | one {part : Part} {c : Char} {rest : List Char} (takes : part.takes c = true) :
    part.Leaves (c :: rest) rest
  | sequence {text rest : List Char} (left : rest <:+ text) : anySequence.Leaves text rest
  | whole {text : List Char} : anyDirectories.Leaves text text
  | behind {before rest : List Char} : anyDirectories.Leaves (before ++ '/' :: rest) rest
  | none {text : List Char} : anyDirectories.Leaves text []

/-- A pattern, written with `fills` or not before it, takes the whole of a text. -/
inductive Takes : Bool → List Char → List Char → Prop
  | done {fills : Bool} : Takes fills [] []
  | step {fills fills' : Bool} {pattern after text rest : List Char} {part : Part}
      (reads : Reads fills pattern part fills' after) (leaves : part.Leaves text rest)
      (more : Takes fills' after rest) : Takes fills pattern text

/-- A pattern is well-formed. -/
inductive Readable : Bool → List Char → Prop
  | done {fills : Bool} : Readable fills []
  | step {fills fills' : Bool} {pattern after : List Char} {part : Part}
      (reads : Reads fills pattern part fills' after) (more : Readable fills' after) :
      Readable fills pattern

/-- What steps, last first, may leave of a text. -/
inductive Reaches : List Part → List Char → List Char → Prop
  | none {text : List Char} : Reaches [] text text
  | step {done : List Part} {part : Part} {text mid rest : List Char} (before : Reaches done text mid)
      (last : part.Leaves mid rest) : Reaches (part :: done) text rest

variable {fills fills' : Bool} {pattern after text rest : List Char} {part : Part}
  {done steps : List Part} {bound : Nat}

theorem mem_suffixes_iff : rest ∈ suffixes text ↔ rest <:+ text := by
  induction text with
  | nil => simp [suffixes]
  | cons c text ih => rw [suffixes, List.mem_cons, ih, List.suffix_cons_iff]

theorem mem_behindSlashes_iff : rest ∈ behindSlashes text ↔ ∃ before, text = before ++ '/' :: rest := by
  induction text with
  | nil => simp [behindSlashes]
  | cons c text ih =>
    rw [behindSlashes]
    have later (member : rest ∈ behindSlashes text) : ∃ before, c :: text = before ++ '/' :: rest := by
      obtain ⟨before, split⟩ := ih.mp member
      exact ⟨c :: before, by rw [split, List.cons_append]⟩
    constructor
    · intro member
      split at member
      · next slash =>
        rcases List.mem_cons.mp member with rfl | member
        · exact ⟨[], by rw [slash, List.nil_append]⟩
        · exact later member
      · exact later member
    · rintro ⟨before, split⟩
      cases before with
      | nil =>
        obtain ⟨rfl, rfl⟩ := List.cons.inj split
        rw [if_pos rfl]
        exact List.mem_cons_self
      | cons first before =>
        have member := ih.mpr ⟨before, (List.cons.inj split).2⟩
        split
        · exact List.mem_cons_of_mem _ member
        · exact member

theorem leaves_anySequence_iff : Part.anySequence.Leaves text rest ↔ rest ∈ suffixes text := by
  rw [mem_suffixes_iff]
  constructor
  · rintro (takes | left)
    · exact absurd takes Bool.false_ne_true
    · exact left
  · exact .sequence

theorem leaves_anyDirectories_iff :
    Part.anyDirectories.Leaves text rest ↔ rest ∈ text :: behindSlashes text ++ [[]] := by
  rw [List.mem_append, List.mem_cons, mem_behindSlashes_iff, List.mem_singleton]
  constructor
  · rintro (takes | _ | _ | _)
    · exact absurd takes Bool.false_ne_true
    · exact .inl (.inl rfl)
    · exact .inl (.inr ⟨_, rfl⟩)
    · exact .inr rfl
  · rintro ((rfl | ⟨before, rfl⟩) | rfl)
    · exact .whole
    · exact .behind
    · exact .none

theorem leaves_iff (noSequence : part ≠ .anySequence) (noDirectories : part ≠ .anyDirectories) :
    part.Leaves text rest ↔ ∃ c, text = c :: rest ∧ part.takes c = true := by
  constructor
  · rintro (takes | _ | _ | _ | _)
    · exact ⟨_, rfl, takes⟩
    · exact absurd rfl noSequence
    all_goals exact absurd rfl noDirectories
  · rintro ⟨c, rfl, takes⟩
    exact .one takes

theorem leaves_char_iff {d : Char} : (Part.char d).Leaves text rest ↔ text = d :: rest := by
  rw [leaves_iff (by nofun) (by nofun)]
  constructor
  · rintro ⟨c, rfl, takes⟩
    rw [of_decide_eq_true takes]
  · rintro rfl
    exact ⟨d, rfl, decide_eq_true rfl⟩

theorem matchesText_cons_iff : Pattern.matchesText (part :: steps) text = true ↔
    ∃ rest, part.Leaves text rest ∧ Pattern.matchesText steps rest = true := by
  by_cases sequence : part = .anySequence
  · subst sequence
    simp only [leaves_anySequence_iff, Pattern.matchesText, List.any_eq_true]
  by_cases directories : part = .anyDirectories
  · subst directories
    simp only [leaves_anyDirectories_iff, Pattern.matchesText, List.any_eq_true]
  simp only [leaves_iff sequence directories]
  cases text with
  | nil => cases part <;> simp_all [Pattern.matchesText]
  | cons c text => cases part <;> simp_all [Pattern.matchesText]

theorem matchesText_append_iff : Pattern.matchesText (done.reverse ++ steps) text = true ↔
    ∃ rest, Reaches done text rest ∧ Pattern.matchesText steps rest = true := by
  induction done generalizing steps with
  | nil =>
    refine ⟨fun taken => ⟨text, .none, taken⟩, ?_⟩
    rintro ⟨_, ⟨⟩, taken⟩
    exact taken
  | cons part done ih =>
    rw [List.reverse_cons, List.append_assoc, List.singleton_append, ih]
    simp only [matchesText_cons_iff]
    constructor
    · rintro ⟨mid, before, rest, last, taken⟩
      exact ⟨rest, .step before last, taken⟩
    · rintro ⟨rest, _ | ⟨before, last⟩, taken⟩
      exact ⟨_, before, rest, last, taken⟩

/-- Any directories behind any directories are again any directories. -/
theorem leaves_anyDirectories_trans {mid : List Char} (first : Part.anyDirectories.Leaves text mid)
    (second : Part.anyDirectories.Leaves mid rest) : Part.anyDirectories.Leaves text rest := by
  cases second with
  | one takes => exact absurd takes Bool.false_ne_true
  | whole => exact first
  | none => exact .none
  | @behind between =>
    generalize same : between ++ '/' :: rest = mid at first
    cases first with
    | one takes => exact absurd takes Bool.false_ne_true
    | whole =>
      subst same
      exact .behind
    | @behind before =>
      rw [← same, ← List.cons_append, ← List.append_assoc]
      exact .behind
    | none => exact absurd same (List.append_ne_nil_of_right_ne_nil _ (List.cons_ne_nil _ _))

theorem reaches_pushDirectories_iff :
    Reaches (pushDirectories done) text rest ↔ Reaches (.anyDirectories :: done) text rest := by
  unfold pushDirectories
  split
  · refine ⟨fun reached => .step reached .whole, ?_⟩
    rintro (_ | ⟨_ | ⟨before, first⟩, second⟩)
    exact .step before (leaves_anyDirectories_trans first second)
  · rfl

/-- Takes a step to those before it. -/
def push (part : Part) (done : List Part) : List Part :=
  if part = .anyDirectories then pushDirectories done else part :: done

theorem reaches_push_iff : Reaches (push part done) text rest ↔ Reaches (part :: done) text rest := by
  rw [push]
  split
  · next directories => rw [directories, reaches_pushDirectories_iff]
  · rfl

theorem eq_append_of_closed {more : List Char} (closed : more.dropWhile (· ≠ ']') = ']' :: rest) :
    more = more.takeWhile (· ≠ ']') ++ ']' :: rest := by
  rw [← closed, List.takeWhile_append_dropWhile]

theorem readClass_cases (read : readClass text = some (part, after)) :
    (∃ members, part = .oneOf members ∨ part = .noneOf members) ∧
      ∃ inside, text = inside ++ ']' :: after := by
  unfold readClass at read
  dsimp only at read
  split at read
  · split at read
    · cases read
    · next first more =>
      split at read
      · next closed =>
        cases read
        exact ⟨⟨_, .inr rfl⟩, '!' :: first :: more.takeWhile (· ≠ ']'),
          congrArg ('!' :: first :: ·) (eq_append_of_closed closed)⟩
      · cases read
  · split at read
    · cases read
    · next first more _ =>
      split at read
      · next closed =>
        cases read
        exact ⟨⟨_, .inl rfl⟩, first :: more.takeWhile (· ≠ ']'),
          congrArg (first :: ·) (eq_append_of_closed closed)⟩
      · cases read

theorem readFrom_of_reads (reads : Reads fills pattern part fills' after) :
    readFrom (bound + 1) fills done pattern = readFrom bound fills' (push part done) after := by
  cases reads with
  | char tame =>
    obtain ⟨noAny, noStar, noClass⟩ := (not_or.mp tame).imp_right not_or.mp
    rw [readFrom, push, if_neg nofun]
    · exact noAny
    · exact noStar
    · exact noClass
  | anyChar => rw [readFrom, push, if_neg nofun]
  | anySequence alone =>
    have single (more : List Char) : after ≠ '*' :: more := fun same => alone (same ▸ rfl)
    rw [readFrom, push, if_neg nofun]
    · exact fun more => single _
    · exact single
  | anyDirectories => rfl
  | lastDirectories => rfl
  | oneOf read =>
    obtain ⟨members, rfl | rfl⟩ := (readClass_cases read).1
    · rw [readFrom, read]
      rfl
    · rw [readFrom, read]
      rfl

/-- A pattern that does not end begins with a step, or is not read at all. -/
theorem exists_reads_or_readFrom_eq_none (nonempty : pattern ≠ []) :
    (∃ part fills' after, Reads fills pattern part fills' after) ∨
      readFrom (bound + 1) fills done pattern = none := by
  obtain ⟨c, rest, rfl⟩ := List.exists_cons_of_ne_nil nonempty
  by_cases tame : ¬ IsWild c
  · exact .inl ⟨_, _, _, .char tame⟩
  obtain rfl | rfl | rfl := not_not.mp tame
  · exact .inl ⟨_, _, _, .anyChar⟩
  · by_cases alone : rest.head? ≠ some '*'
    · exact .inl ⟨_, _, _, .anySequence alone⟩
    obtain ⟨more, rfl⟩ := List.head?_eq_some_iff.mp (not_not.mp alone)
    by_cases third : more.head? = some '*'
    · obtain ⟨_, rfl⟩ := List.head?_eq_some_iff.mp third
      exact .inr rfl
    cases read : afterDoubleStar? fills more with
    | none =>
      refine .inr ?_
      rw [readFrom, read]
      · rfl
      · rintro rest rfl
        exact third rfl
    | some after =>
      refine .inl ?_
      unfold afterDoubleStar? at read
      cases fills with
      | false => cases read
      | true =>
        split at read
        · cases read
        · split at read
          · exact ⟨_, _, _, .lastDirectories⟩
          · exact ⟨_, _, _, .anyDirectories⟩
          · cases read
  · cases read : readClass rest with
    | some found => exact .inl ⟨_, _, _, .oneOf read⟩
    | none =>
      refine .inr ?_
      rw [readFrom, read]
      rfl

/-- A pattern ends, or it is read by the step that it begins with. -/
theorem readFrom_cons_iff {result : Pattern} (nonempty : pattern ≠ []) :
    readFrom (bound + 1) fills done pattern = some result ↔
      ∃ part fills' after, Reads fills pattern part fills' after ∧
        readFrom bound fills' (push part done) after = some result := by
  constructor
  · intro read
    rcases @exists_reads_or_readFrom_eq_none fills pattern done bound nonempty with
      ⟨part, fills', after, reads⟩ | fails
    · exact ⟨part, fills', after, reads, readFrom_of_reads reads ▸ read⟩
    · exact absurd (fails.symm.trans read) nofun
  · rintro ⟨part, fills', after, reads, read⟩
    rw [readFrom_of_reads reads, read]

theorem Reads.exists_append (reads : Reads fills pattern part fills' after) :
    ∃ front, front ≠ [] ∧ pattern = front ++ after := by
  cases reads with
  | anyDirectories => exact ⟨['*', '*', '/'], nofun, rfl⟩
  | lastDirectories => exact ⟨['*', '*'], nofun, rfl⟩
  | oneOf read =>
    obtain ⟨inside, split⟩ := (readClass_cases read).2
    exact ⟨'[' :: (inside ++ [']']), nofun, by simp [split]⟩
  | _ => exact ⟨[_], nofun, rfl⟩

theorem Reads.length_lt (reads : Reads fills pattern part fills' after) :
    after.length < pattern.length := by
  obtain ⟨front, nonempty, rfl⟩ := reads.exists_append
  rw [List.length_append]
  exact Nat.lt_add_of_pos_left (List.length_pos_iff.mpr nonempty)

theorem readFrom_matches_iff (room : pattern.length < bound) :
    (∃ result, readFrom bound fills done pattern = some result ∧ result.matchesText text = true) ↔
      ∃ rest, Reaches done text rest ∧ Takes fills pattern rest := by
  induction bound generalizing fills done pattern with
  | zero => exact absurd room (Nat.not_lt_zero _)
  | succ bound ih =>
    by_cases ends : pattern = []
    · subst ends
      have read : readFrom (bound + 1) fills done [] = some (done.reverse ++ []) := by
        rw [readFrom, List.append_nil]
      simp only [read, Option.some.injEq, exists_eq_left', matchesText_append_iff]
      refine exists_congr fun rest => and_congr_right fun _ => ?_
      rw [Pattern.matchesText, List.isEmpty_iff]
      constructor
      · rintro rfl
        exact .done
      · rintro (_ | ⟨⟨⟩⟩)
        rfl
    · have each : ∀ result, (readFrom (bound + 1) fills done pattern = some result ∧
          result.matchesText text = true) ↔ ∃ part fills' after, Reads fills pattern part fills' after ∧
            readFrom bound fills' (push part done) after = some result ∧
              result.matchesText text = true := by
        intro result
        rw [readFrom_cons_iff ends]
        simp only [← and_assoc, exists_and_right]
      constructor
      · rintro ⟨result, taken⟩
        obtain ⟨part, fills', after, reads, taken⟩ := (each result).mp taken
        have shorter := reads.length_lt
        obtain ⟨rest, reached, more⟩ := (ih (by omega)).mp ⟨result, taken⟩
        obtain _ | ⟨before, last⟩ := reaches_push_iff.mp reached
        exact ⟨_, before, .step reads last more⟩
      · rintro ⟨mid, before, _ | ⟨reads, leaves, more⟩⟩
        · exact absurd rfl ends
        · have shorter := reads.length_lt
          have reached := reaches_push_iff.mpr (.step before leaves)
          obtain ⟨result, taken⟩ := (ih (by omega)).mpr ⟨_, reached, more⟩
          exact ⟨result, (each result).mpr ⟨_, _, _, reads, taken⟩⟩

theorem exists_readFrom_iff (room : pattern.length < bound) :
    (∃ result, readFrom bound fills done pattern = some result) ↔ Readable fills pattern := by
  induction bound generalizing fills done pattern with
  | zero => exact absurd room (Nat.not_lt_zero _)
  | succ bound ih =>
    by_cases ends : pattern = []
    · subst ends
      exact ⟨fun _ => .done, fun _ => ⟨_, rfl⟩⟩
    · simp only [readFrom_cons_iff ends]
      constructor
      · rintro ⟨result, part, fills', after, reads, read⟩
        have shorter := reads.length_lt
        exact .step reads ((ih (by omega)).mp ⟨result, read⟩)
      · rintro (_ | ⟨reads, more⟩)
        · exact absurd rfl ends
        · have shorter := reads.length_lt
          obtain ⟨result, read⟩ := (ih (by omega)).mpr more
          exact ⟨result, _, _, _, reads, read⟩

theorem isSome_parse?_iff {pattern : String} :
    (Pattern.parse? pattern).isSome = true ↔ Readable true pattern.toList := by
  rw [Option.isSome_iff_exists]
  exact exists_readFrom_iff (Nat.lt_succ_self _)

theorem exists_accepts_iff {pattern : String} :
    (∃ result, Pattern.parse? pattern = some result ∧ result.accepts text = true) ↔
      Takes true pattern.toList text := by
  simp only [Pattern.accepts_eq]
  refine (readFrom_matches_iff (Nat.lt_succ_self _)).trans ⟨?_, fun taken => ⟨text, .none, taken⟩⟩
  rintro ⟨_, ⟨⟩, taken⟩
  exact taken

theorem takes_cons_iff {c : Char} (tame : ¬ IsWild c) :
    Takes fills (c :: pattern) text ↔ ∃ rest, text = c :: rest ∧ Takes (c = '/') pattern rest := by
  constructor
  · rintro (_ | ⟨reads, leaves, more⟩)
    cases reads with
    | char => exact ⟨_, leaves_char_iff.mp leaves, more⟩
    | anyChar => exact absurd (.inl rfl) tame
    | oneOf => exact absurd (.inr (.inr rfl)) tame
    | _ => exact absurd (.inr (.inl rfl)) tame
  · rintro ⟨rest, rfl, more⟩
    exact .step (.char tame) (leaves_char_iff.mpr rfl) more

theorem takes_anyChar_iff :
    Takes fills ('?' :: pattern) text ↔ ∃ c rest, text = c :: rest ∧ Takes false pattern rest := by
  constructor
  · rintro (_ | ⟨reads, leaves, more⟩)
    cases reads with
    | char tame => exact absurd (.inl rfl) tame
    | anyChar =>
      obtain ⟨c, split, -⟩ := (leaves_iff (by nofun) (by nofun)).mp leaves
      exact ⟨c, _, split, more⟩
  · rintro ⟨c, rest, rfl, more⟩
    exact .step .anyChar (.one rfl) more

theorem readable_cons_iff {c : Char} (tame : ¬ IsWild c) :
    Readable fills (c :: pattern) ↔ Readable (c = '/') pattern := by
  constructor
  · rintro (_ | ⟨reads, more⟩)
    cases reads with
    | char => exact more
    | anyChar => exact absurd (.inl rfl) tame
    | oneOf => exact absurd (.inr (.inr rfl)) tame
    | _ => exact absurd (.inr (.inl rfl)) tame
  · exact .step (.char tame)

/-- Characters that stand for themselves, up to a slash, are taken from the text, and the pattern behind
them is on its own. -/
theorem takes_append_iff {front : List Char} (tame : ∀ c ∈ front, ¬ IsWild c) :
    Takes fills (front ++ '/' :: pattern) text ↔
      ∃ rest, text = front ++ '/' :: rest ∧ Takes true pattern rest := by
  have slash : ¬ IsWild '/' := by decide
  induction front generalizing fills text with
  | nil => exact takes_cons_iff slash
  | cons c front ih =>
    obtain ⟨first, others⟩ := List.forall_mem_cons.mp tame
    rw [List.cons_append, takes_cons_iff first]
    simp only [ih others]
    constructor
    · rintro ⟨_, rfl, rest, rfl, more⟩
      exact ⟨rest, rfl, more⟩
    · rintro ⟨rest, rfl, more⟩
      exact ⟨_, rfl, rest, rfl, more⟩

theorem readable_append_iff {front : List Char} (tame : ∀ c ∈ front, ¬ IsWild c) :
    Readable fills (front ++ '/' :: pattern) ↔ Readable true pattern := by
  have slash : ¬ IsWild '/' := by decide
  induction front generalizing fills with
  | nil => exact readable_cons_iff slash
  | cons c front ih =>
    obtain ⟨first, others⟩ := List.forall_mem_cons.mp tame
    rw [List.cons_append, readable_cons_iff first]
    exact ih others

/-- Without stars and classes a pattern takes the texts of its own length that differ from it only where it
has question marks. -/
theorem takes_iff_forall₂ (even : ∀ c ∈ pattern, c ≠ '*' ∧ c ≠ '[') :
    Takes fills pattern text ↔ List.Forall₂ (fun d c => d = '?' ∨ d = c) pattern text := by
  induction pattern generalizing fills text with
  | nil =>
    rw [List.forall₂_nil_left_iff]
    constructor
    · rintro (_ | ⟨⟨⟩⟩)
      rfl
    · rintro rfl
      exact .done
  | cons d pattern ih =>
    obtain ⟨⟨noStar, noClass⟩, others⟩ := List.forall_mem_cons.mp even
    rw [List.forall₂_cons_left_iff]
    by_cases any : d = '?'
    · subst any
      rw [takes_anyChar_iff]
      simp only [ih others, true_or, true_and]
      constructor
      · rintro ⟨c, rest, rfl, each⟩
        exact ⟨c, rest, each, rfl⟩
      · rintro ⟨c, rest, each, rfl⟩
        exact ⟨c, rest, rfl, each⟩
    · have tame : ¬ IsWild d := fun wild => wild.elim any fun wild => wild.elim noStar noClass
      rw [takes_cons_iff tame]
      simp only [ih others, any, false_or]
      constructor
      · rintro ⟨rest, rfl, each⟩
        exact ⟨d, rest, rfl, each, rfl⟩
      · rintro ⟨c, rest, rfl, each, rfl⟩
        exact ⟨rest, rfl, each⟩

/-- From its first star on a pattern takes longer texts too: what that star is matched against may stand
behind anything that ends in a slash. -/
def Stretches (fills : Bool) (pattern text : List Char) : Prop :=
  ∃ before after front rest, pattern = before ++ '*' :: after ∧ text = front ++ rest ∧
    front.length ≤ before.length ∧
      ∀ more, (fills = true → more = [] ∨ more.getLast? = some '/') →
        Takes fills pattern (front ++ (more ++ (front ++ rest)))

theorem stretches_of_star {pattern : List Char} (reads : Reads fills ('*' :: pattern) part fills' after)
    (longer : ∀ more, (fills = true → more = [] ∨ more.getLast? = some '/') →
      part.Leaves (more ++ text) rest) (taken : Takes fills' after rest) :
    Stretches fills ('*' :: pattern) text :=
  ⟨[], pattern, [], text, rfl, rfl, Nat.le_refl _, fun more ends => .step reads (longer more ends) taken⟩

theorem leaves_anyDirectories_append {more : List Char} (leaves : Part.anyDirectories.Leaves text rest)
    (ends : more = [] ∨ more.getLast? = some '/') : Part.anyDirectories.Leaves (more ++ text) rest := by
  rcases ends with rfl | slash
  · exact leaves
  · obtain ⟨before, rfl⟩ := List.getLast?_eq_some_iff.mp slash
    rw [List.append_assoc]
    exact leaves_anyDirectories_trans .behind leaves

theorem Stretches.cons {c : Char} (stretches : Stretches fills' after rest)
    (reads : Reads fills pattern part fills' after) (takes : part.takes c = true)
    (slash : fills' = true → c = '/') : Stretches fills pattern (c :: rest) := by
  obtain ⟨first, nonempty, rfl⟩ := reads.exists_append
  obtain ⟨before, behind, front, rest, rfl, rfl, short, longer⟩ := stretches
  have whole : first ++ (before ++ '*' :: behind) = (first ++ before) ++ '*' :: behind :=
    (List.append_assoc ..).symm
  refine ⟨first ++ before, behind, c :: front, rest, whole, rfl, ?_, fun more _ => ?_⟩
  · have := List.length_pos_iff.mpr nonempty
    rw [List.length_append, List.length_cons]
    omega
  · have ends (fills : fills' = true) : more ++ [c] = [] ∨ (more ++ [c]).getLast? = some '/' :=
      .inr (by rw [List.getLast?_concat, slash fills])
    have taken := longer (more ++ [c]) ends
    rw [List.append_assoc] at taken
    exact .step reads (.one takes) taken

/-- A text that a pattern takes can be made longer, or it is no longer than the pattern. A class in the
pattern makes it shorter. -/
theorem Takes.stretches_or_shorter (taken : Takes fills pattern text) : Stretches fills pattern text ∨
    text.length ≤ pattern.length ∧ ('*' ∈ pattern ∨ '[' ∈ pattern → text.length < pattern.length) := by
  induction taken with
  | done => exact .inr ⟨Nat.le_refl _, fun member => by simp at member⟩
  | @step fills fills' pattern after text rest part reads leaves more ih =>
    have whole := reads
    cases reads with
    | char tame =>
      obtain rfl := leaves_char_iff.mp leaves
      refine ih.imp (·.cons whole (decide_eq_true rfl) of_decide_eq_true) fun ⟨short, shorter⟩ => ?_
      refine ⟨Nat.succ_le_succ short, fun member => Nat.succ_lt_succ (shorter ?_)⟩
      refine member.imp (fun star => ?_) fun opened => ?_
      · exact (List.mem_cons.mp star).resolve_left fun same => tame (.inr (.inl same.symm))
      · exact (List.mem_cons.mp opened).resolve_left fun same => tame (.inr (.inr same.symm))
    | anyChar =>
      obtain ⟨c, rfl, takes⟩ := (leaves_iff (by nofun) (by nofun)).mp leaves
      refine ih.imp (·.cons whole takes nofun) fun ⟨short, shorter⟩ => ?_
      refine ⟨Nat.succ_le_succ short, fun member => Nat.succ_lt_succ (shorter ?_)⟩
      exact member.imp (fun star => (List.mem_cons.mp star).resolve_left (by decide))
        fun opened => (List.mem_cons.mp opened).resolve_left (by decide)
    | anySequence alone =>
      refine .inl (stretches_of_star whole (fun longer _ => .sequence ?_) more)
      exact (mem_suffixes_iff.mp (leaves_anySequence_iff.mp leaves)).trans (List.suffix_append _ _)
    | anyDirectories =>
      exact .inl (stretches_of_star whole
        (fun _ ends => leaves_anyDirectories_append leaves (ends rfl)) more)
    | lastDirectories =>
      exact .inl (stretches_of_star whole
        (fun _ ends => leaves_anyDirectories_append leaves (ends rfl)) more)
    | oneOf read =>
      obtain ⟨⟨members, built⟩, inside, rfl⟩ := readClass_cases read
      obtain ⟨c, rfl, takes⟩ : ∃ c, text = c :: rest ∧ part.takes c = true := by
        rcases built with rfl | rfl <;> exact (leaves_iff (by nofun) (by nofun)).mp leaves
      refine ih.imp (·.cons whole takes nofun) fun ⟨short, _⟩ => ?_
      have shorter : (c :: rest).length < ('[' :: (inside ++ ']' :: after)).length := by
        simp only [List.length_cons, List.length_append]
        omega
      exact ⟨Nat.le_of_lt shorter, fun _ => shorter⟩

end BlankLines.Glob
