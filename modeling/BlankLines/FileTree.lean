import BlankLines.Keyed
import BlankLines.Path

/-!
A finite tree of directories and files, and what a program can do with paths in it: look, read, write.
Every step of a path must be there, also one that a later `..` leaves again.
-/
namespace BlankLines

/-- A file with its bytes, or a directory with its named entries. -/
inductive FileTree where
  | file (bytes : ByteArray)
  | directory (entries : List (String × FileTree))
deriving Inhabited

inductive FileError where
  | missing
  | notDirectory
  | isDirectory
  | notText
  | nulInPath
  | nameTooLong
deriving Repr, DecidableEq

def FileError.message : FileError → String
  | .missing => "No such file or directory (os error 2)"
  | .notDirectory => "Not a directory (os error 20)"
  | .isDirectory => "Is a directory (os error 21)"
  | .notText => "stream did not contain valid UTF-8"
  | .nulInPath => "file name contained an unexpected NUL byte"
  | .nameTooLong => "File name too long (os error 36)"

namespace FileTree

def empty : FileTree :=
  .directory []

def find? : FileTree → List String → Option FileTree
  | tree, [] => some tree
  | .file _, _ :: _ => none
  | .directory entries, name :: names =>
    match Keyed.get? entries name with
    | some tree => tree.find? names
    | none => none

/-- The tree with a node put under the names from the root down, directories made on the way. -/
def put : FileTree → List String → FileTree → FileTree
  | _, [], node => node
  | .directory entries, name :: names, node =>
    .directory (Keyed.put entries name (put ((Keyed.get? entries name).getD empty) names node))
  | .file _, name :: names, node => .directory [(name, put empty names node)]

def maxNameSize : Nat := 255

/-- Follows one part of a path from a node; `names` are those of the node, from the root down. -/
def step (root : FileTree) (names : List String) (part : String) : Except FileError (List String) :=
  match root.find? names with
  | some (.directory entries) =>
    if part = "" || part = "." then .ok names
    else if part = ".." then .ok names.dropLast
    else if maxNameSize < part.utf8ByteSize then .error .nameTooLong
    else if Keyed.has entries part then .ok (names ++ [part])
    else .error .missing
  | some (.file _) => .error .notDirectory
  | none => .error .missing

def follow (root : FileTree) (names : List String) : List String → Except FileError (List String)
  | [] => .ok names
  | part :: parts => do
    let names ← step root names part
    follow root names parts

def maxPathSize : Nat := 4095

def isTooLong (path : Path) : Bool :=
  maxPathSize < path.text.utf8ByteSize

/-- Refuses a path for what it is written as, before any part of it is followed. -/
def checkPath (path : Path) : Except FileError Unit :=
  if path.text.contains '\x00' then .error .nulInPath
  else if isTooLong path then .error .nameTooLong
  else if path.text.isEmpty then .error .missing
  else .ok ()

/-- The names of the node that an absolute path leads to. -/
def resolve (root : FileTree) (path : Path) : Except FileError (List String) := do
  checkPath path
  root.follow [] path.parts

def locate (root : FileTree) (path : Path) : Except FileError FileTree := do
  let names ← root.resolve path
  match root.find? names with
  | some tree => return tree
  | none => throw .missing

def isDirectoryAt (root : FileTree) (path : Path) : Bool :=
  match root.locate path with
  | .ok (.directory _) => true
  | _ => false

def existsAt (root : FileTree) (path : Path) : Bool :=
  match root.locate path with
  | .ok _ => true
  | .error _ => false

def textOf (bytes : ByteArray) : Except FileError String :=
  match String.fromUTF8? bytes with
  | some text => .ok text
  | none => .error .notText

def readText (root : FileTree) (path : Path) : Except FileError String := do
  match ← root.locate path with
  | .file bytes => textOf bytes
  | .directory _ => throw .isDirectory

/-- Writes a file. Its directory must be there; a file of that name is replaced. -/
def writeText (root : FileTree) (path : Path) (text : String) : Except FileError FileTree := do
  checkPath path
  let names ← root.follow [] path.parts.dropLast
  let name := path.parts.getLast?.getD ""
  match root.find? names with
  | some (.directory entries) =>
    if name = "" || name = "." || name = ".." then throw .isDirectory
    else if maxNameSize < name.utf8ByteSize then throw .nameTooLong
    else
      match Keyed.get? entries name with
      | some (.directory _) => throw .isDirectory
      | _ => return root.put (names ++ [name]) (.file text.toUTF8)
  | some (.file _) => throw .notDirectory
  | none => throw .missing

end FileTree

end BlankLines
