import LintServer.FileTree

/-!
# Actions on files

What can be done to a file tree, and which locations an action changes. An action that cannot be
done changes nothing.
-/

namespace LintServer

/-- Something done to files. -/
inductive FileAction
  | write (place : Location)
  | remove (place : Location)
  /-- Removes a directory with all it holds. -/
  | removeDirectory (place : Location)
  | makeDirectory (place : Location)
  | rename (source target : Location)
  | changeMode (place : Location)
  | read (place : Location)
deriving DecidableEq, Repr

namespace FileTree

/-- Takes away what stands at a location and below it. -/
def clear (tree : FileTree) (place : Location) : FileTree :=
  { tree with entries := tree.entries.filter fun e => !place.isPrefixOf e.1 }

/-- Moves what stands at a location and below it. -/
def move (tree : FileTree) (source target : Location) : FileTree :=
  let moved := tree.entries.filterMap fun e =>
    if source.isPrefixOf e.1 then some (target ++ e.1.drop source.length, e.2) else none
  let rest := (tree.clear source).clear target
  { rest with entries := moved ++ rest.entries }

/-- The locations of what stands at a location and below it. -/
def below (tree : FileTree) (place : Location) : List Location :=
  (tree.entries.filter fun e => place.isPrefixOf e.1).map (·.1)

/-- Whether something can be renamed: not to itself or to a place below it, and what stood at the
new name gives way only if it is of the same kind, a directory only if it is empty. -/
def mayRename (tree : FileTree) (source target : Location) : Bool :=
  tree.isDirectoryAt target.dropLast && !source.isPrefixOf target
    && match tree.node? source, tree.node? target with
      | none, _ => false
      | some _, none => true
      | some .directory, some .directory => (tree.below target).length ≤ 1
      | some node, some other => node != .directory && other != .directory

/-- Does an action: the tree after it, and the locations it changed. -/
def act (tree : FileTree) : FileAction → FileTree × List Location
  | .write place =>
    if tree.isDirectoryAt place.dropLast && !tree.isDirectoryAt place then
      (tree.put place (.file []), [place])
    else (tree, [])
  | .remove place =>
    match tree.node? place with
    | some (.file _) | some .program => (tree.clear place, [place])
    | _ => (tree, [])
  | .removeDirectory place =>
    if tree.isDirectoryAt place then (tree.clear place, tree.below place)
    else (tree, [])
  | .makeDirectory place =>
    if tree.isDirectoryAt place.dropLast && (tree.node? place).isNone then
      (tree.put place .directory, [place])
    else (tree, [])
  | .rename source target =>
    if tree.mayRename source target then (tree.move source target, [source, target])
    else (tree, [])
  | .changeMode place => (tree, if (tree.node? place).isSome then [place] else [])
  | .read _ => (tree, [])

end FileTree

end LintServer
