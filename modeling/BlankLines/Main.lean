import BlankLines.Run

/-!
The program. It copies what a run looks at into a tree, lets the run end there, and brings the end out:
the file that it writes, the text that it prints, the exit code.
-/
namespace BlankLines.Main

/-- Copies the file or directory under some names, without what is below it. What is in the tree
stays. -/
def copyNode (tree : FileTree) (names : List String) : IO FileTree := do
  if (tree.find? names).isSome then return tree
  let place := (← IO.currentDir).join ("/" ++ "/".intercalate names)
  if ← place.isDir then return tree.put names .empty
  if ← place.pathExists then return tree.put names (.file (← IO.FS.readBinFile place))
  return tree

/-- Copies what is under some names, with the dumps and directories below it. -/
partial def copyBelow (tree : FileTree) (names : List String) : IO FileTree := do
  let tree ← copyNode tree names
  let place := (← IO.currentDir).join ("/" ++ "/".intercalate names)
  if ← place.isDir then
    (← place.readDir).foldlM (fun tree entry => do
      if (← entry.path.isDir) || Path.extension? entry.fileName = some dumpExtension then
        copyBelow tree (names ++ [entry.fileName])
      else return tree) tree
  else return tree

/-- Copies the nodes on the way of a path, up to the first that is missing. -/
def copyWay (tree : FileTree) (path : Path) : IO FileTree := do
  let mut tree := tree
  let mut names := []
  for part in path.parts do
    if part ∉ ["", ".", ".."] then tree ← copyNode tree (names ++ [part])
    match tree.step names part with
    | .ok next => names := next
    | .error _ => return tree
  return tree

/-- Copies what a run with these arguments looks at. -/
def copyFor (arguments : Arguments) (current : Path) : IO FileTree := do
  let config := Run.configPath arguments current
  let target := current.join ⟨arguments.target⟩
  let tree ← copyWay .empty config
  let tree ← (Config.includedFiles tree config).foldlM copyWay tree
  let tree ← (arguments.output.toList.map fun output => current.join ⟨output⟩).foldlM copyWay tree
  let tree ← copyWay tree target
  match tree.resolve target with
  | .ok names => copyBelow tree names
  | .error _ => return tree

end BlankLines.Main

open BlankLines in
/-- Runs with the arguments of the command line in the current directory. -/
def main (arguments : List String) : IO UInt32 := do
  let current : Path := ⟨(← IO.currentDir).toString⟩
  let tree ← match CommandLine.parse arguments with
    | .run arguments => Main.copyFor arguments current
    | _ => pure .empty
  let outcome := Run.outcome arguments current tree
  if let some (path, text) := outcome.written then IO.FS.writeFile path.text text
  IO.print outcome.output
  return outcome.code.toNat.toUInt32
