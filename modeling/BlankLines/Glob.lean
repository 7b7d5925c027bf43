/-!
Glob patterns over whole paths. A `*` and a `?` match slashes too; `**` stands for any number of whole
directories and must fill the place between two slashes.
-/
namespace BlankLines.Glob

/-- A member of a character class: one character, or a closed range. -/
inductive Member where
  | single (c : Char)
  | range (low high : Char)
deriving Repr, DecidableEq

inductive Part where
  | char (c : Char)
  | anyChar
  | anySequence
  | anyDirectories
  | oneOf (members : List Member)
  | noneOf (members : List Member)
deriving Repr, DecidableEq

abbrev Pattern := List Part

def readMembers : List Char → List Member
  | low :: '-' :: high :: rest => .range low high :: readMembers rest
  | c :: rest => .single c :: readMembers rest
  | [] => []

/-- A class after its opening bracket, with the text after its closing one. It has a member at least,
and a closing bracket in the first place is one. -/
def readClass (text : List Char) : Option (Part × List Char) :=
  let close (build : List Member → Part) (text : List Char) : Option (Part × List Char) :=
    match text with
    | [] => none
    | first :: more =>
      let inside := first :: more.takeWhile (· ≠ ']')
      match more.dropWhile (· ≠ ']') with
      | ']' :: rest => some (build (readMembers inside), rest)
      | _ => none
  match text with
  | '!' :: text => close .noneOf text
  | text => close .oneOf text

/-- The text after `**`, where that fills the place between two slashes: `fills` says that nothing or a
slash stands before it. -/
def afterDoubleStar? (fills : Bool) (text : List Char) : Option (List Char) :=
  if !fills then none
  else
    match text with
    | [] => some []
    | '/' :: rest => some rest
    | _ => none

/-- Adds a step for any directories. A run of them counts once, except at the very beginning. -/
def pushDirectories (done : List Part) : List Part :=
  match done with
  | .anyDirectories :: _ :: _ => done
  | _ => .anyDirectories :: done

/-- Reads a pattern; `done` holds the steps before, last first, and `fills` is set at the beginning and
behind a slash. -/
def readFrom : Nat → Bool → List Part → List Char → Option Pattern
  | 0, _, _, _ => none
  | bound + 1, fills, done, text =>
    match text with
    | [] => some done.reverse
    | '?' :: rest => readFrom bound false (.anyChar :: done) rest
    | '*' :: rest =>
      match rest with
      | '*' :: '*' :: _ => none
      | '*' :: rest => do
        let after ← afterDoubleStar? fills rest
        readFrom bound true (pushDirectories done) after
      | rest => readFrom bound false (.anySequence :: done) rest
    | '[' :: rest => do
      let (part, rest) ← readClass rest
      readFrom bound false (part :: done) rest
    | c :: rest => readFrom bound (c = '/') (.char c :: done) rest

/-- The pattern that a text writes; none if it is ill-formed. -/
def Pattern.parse? (text : String) : Option Pattern :=
  let chars := text.toList
  readFrom (chars.length + 1) true [] chars

def Member.holds (member : Member) (c : Char) : Bool :=
  match member with
  | .single d => c = d
  | .range low high => low ≤ c && c ≤ high

def Part.takes (part : Part) (c : Char) : Bool :=
  match part with
  | .char d => c = d
  | .anyChar => true
  | .oneOf members => members.any (·.holds c)
  | .noneOf members => !members.any (·.holds c)
  | .anySequence | .anyDirectories => false

/-- A text and all that is left of it as it is read. -/
def suffixes : List Char → List (List Char)
  | [] => [[]]
  | c :: rest => (c :: rest) :: suffixes rest

def behindSlashes : List Char → List (List Char)
  | [] => []
  | c :: rest => if c = '/' then rest :: behindSlashes rest else behindSlashes rest

/-- Whether the steps take the whole text. Any directories leave the text whole, or begin again behind
one of its slashes, or use it up. -/
def Pattern.matchesText : Pattern → List Char → Bool
  | [], text => text.isEmpty
  | .anySequence :: more, text => (suffixes text).any (matchesText more)
  | .anyDirectories :: more, text =>
    (text :: behindSlashes text ++ [[]]).any (matchesText more)
  | _ :: _, [] => false
  | part :: more, c :: text => part.takes c && matchesText more text

/-- A row tells of every text left of one text whether some steps take it whole. A step turns the row of
those behind it into its own, so that no text is tried twice. Of no steps, only the empty text is taken. -/
def endRow : List Char → List Bool
  | [] => [true]
  | _ :: text => false :: endRow text

def singleRow (part : Part) : List Char → List Bool → List Bool
  | c :: text, _ :: later => (part.takes c && later.headD false) :: singleRow part text later
  | _, _ => [false]

/-- The row of any sequence: this text or one left of it is taken. -/
def sequenceRow : List Bool → List Bool
  | [] => []
  | now :: later =>
    let rest := sequenceRow later
    (now || rest.headD false) :: rest

/-- Whether a text behind a later slash is taken, or the empty one at the end. -/
def behindRow : List Char → List Bool → List Bool
  | c :: text, _ :: later =>
    let rest := behindRow text later
    ((c = '/' && later.headD false) || rest.headD false) :: rest
  | _, row => row

def Pattern.row (text : List Char) : Pattern → List Bool
  | [] => endRow text
  | .anySequence :: more => sequenceRow (row text more)
  | .anyDirectories :: more =>
    let row := row text more
    List.zipWith (· || ·) row (behindRow text row)
  | part :: more => singleRow part text (row text more)

def Pattern.accepts (pattern : Pattern) (text : List Char) : Bool :=
  (pattern.row text).headD false

theorem headD_suffixes (f : List Char → Bool) (text : List Char) :
    ((suffixes text).map f).headD false = f text := by
  cases text <;> rfl

theorem endRow_eq (text : List Char) : endRow text = (suffixes text).map List.isEmpty := by
  induction text with
  | nil => rfl
  | cons c text ih => simp [endRow, suffixes, ih]

theorem singleRow_eq (part : Part) (f : List Char → Bool) (text : List Char) :
    singleRow part text ((suffixes text).map f) =
      (suffixes text).map fun
        | [] => false
        | c :: rest => part.takes c && f rest := by
  induction text with
  | nil => rfl
  | cons c text ih => simp only [singleRow, suffixes, List.map_cons, ih, headD_suffixes]

theorem sequenceRow_eq (f : List Char → Bool) (text : List Char) :
    sequenceRow ((suffixes text).map f) = (suffixes text).map fun rest => (suffixes rest).any f := by
  induction text with
  | nil => simp [sequenceRow, suffixes]
  | cons c text ih =>
    simp only [sequenceRow, suffixes, List.map_cons, ih, headD_suffixes, List.any_cons]

theorem behindRow_eq (f : List Char → Bool) (text : List Char) :
    behindRow text ((suffixes text).map f) =
      (suffixes text).map fun rest => (behindSlashes rest ++ [[]]).any f := by
  induction text with
  | nil => simp [behindRow, suffixes, behindSlashes]
  | cons c text ih =>
    simp only [behindRow, suffixes, List.map_cons, ih, headD_suffixes, behindSlashes]
    split <;> simp_all

/-- A row holds what the pattern says of each text that is left. -/
theorem Pattern.row_eq (pattern : Pattern) (text : List Char) :
    pattern.row text = (suffixes text).map pattern.matchesText := by
  fun_induction Pattern.row text pattern with
  | case1 => rw [endRow_eq]; rfl
  | case2 more ih => rw [ih, sequenceRow_eq]; rfl
  | case3 more row ih =>
    simp only [row, ih, behindRow_eq, List.zipWith_map, List.zipWith_self]
    refine List.map_congr_left fun rest _ => ?_
    simp [matchesText]
  | case4 part more notSequence notDirectories ih =>
    rw [ih, singleRow_eq]
    refine List.map_congr_left fun rest _ => ?_
    cases rest with
    | nil => cases part <;> simp_all [matchesText]
    | cons c rest => cases part <;> simp_all [matchesText]

theorem Pattern.accepts_eq (pattern : Pattern) (text : List Char) :
    pattern.accepts text = pattern.matchesText text := by
  rw [accepts, row_eq, headD_suffixes]

end BlankLines.Glob
