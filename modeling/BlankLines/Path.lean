import BlankLines.Text.Quoted

/-!
Paths as they are written: texts whose components stand between slashes. Joining and taking a parent
do not look at any file.
-/
namespace BlankLines

structure Path where
  text : String
deriving Repr, DecidableEq

namespace Path

def quoted (path : Path) : String :=
  Text.quoted path.text

def isAbsolute (path : Path) : Bool :=
  path.text.toList.head? = some '/'

/-- A path below a base. An absolute one replaces the base; an empty one leaves a slash at its end. -/
def join (base : Path) (path : Path) : Path :=
  if path.isAbsolute then path
  else if base.text.isEmpty || base.text.toList.getLast? = some '/' then ⟨base.text ++ path.text⟩
  else ⟨base.text ++ "/" ++ path.text⟩

def splitSlashes : List Char → List (List Char)
  | [] => [[]]
  | c :: rest =>
    if c = '/' then [] :: splitSlashes rest
    else
      match splitSlashes rest with
      | first :: more => (c :: first) :: more
      | [] => [[c]]

/-- The parts between slashes, empty ones and dots included. -/
def parts (path : Path) : List String :=
  (splitSlashes path.text.toList).map String.ofList

/-- Whether a part names nothing: it is empty, or a dot that does not begin a relative path. -/
def isIdle (first : Bool) (part : List Char) : Bool :=
  part = [] || (part = ['.'] && !first)

/-- Drops idle parts and slashes from the end of reversed parts of a path. `relative` says whether the
first part of all begins the path. -/
def dropIdle (relative : Bool) : List (List Char) → List (List Char)
  | [] => []
  | part :: before =>
    if isIdle (relative && before.isEmpty) part then dropIdle relative before else part :: before

/-- Writes reversed parts with slashes between them. -/
def joinParts : List (List Char) → List Char
  | [] => []
  | [part] => part
  | part :: before => joinParts before ++ '/' :: part

/-- The path without its last component. The root and the empty path have none. -/
def parent? (path : Path) : Option Path :=
  if path.isAbsolute then
    match dropIdle false (splitSlashes (path.text.toList.drop 1)).reverse with
    | [] => none
    | _ :: before => some ⟨String.ofList ('/' :: joinParts (dropIdle false before))⟩
  else
    match dropIdle true (splitSlashes path.text.toList).reverse with
    | [] => none
    | _ :: before => some ⟨String.ofList (joinParts (dropIdle true before))⟩

/-- What follows the last dot of a file name, unless that dot begins the name. -/
def extension? (name : String) : Option String :=
  let chars := name.toList
  if chars = ['.', '.'] then none
  else
    let after := (chars.reverse.takeWhile (· ≠ '.')).reverse
    if after.length + 1 < chars.length then some (String.ofList after) else none

end Path

end BlankLines
