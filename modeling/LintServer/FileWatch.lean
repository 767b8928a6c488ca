import LintServer.FileAction
import LintServer.Package

/-!
# File watches

A watch on a directory reports every change at or below it, by the path under which the directory
was given. Of the reported paths only those that count (`isWatched`) are passed on: the last
component is one of the watched names, and no component says that the file belongs to an installed
package.
-/

namespace LintServer

/-- A watch: the directory's absolute path, as written, and where it is. -/
structure FileWatch where
  root : Path
  place : Location
deriving DecidableEq, Repr

/-- Whether a change of a path counts. -/
def isWatched (names : List String) (path : Path) : Bool :=
  (path.fileName?.any fun n => names.any fun name => Utf8.ofString name == n)
    && !path.components.any fun c => c == .name (Utf8.ofString Package.installed)

namespace FileWatch

/-- Why a directory cannot be watched. -/
inductive Refusal
  /-- There is nothing at the path. -/
  | notFound
  /-- The path has a zero byte in it. -/
  | zeroByte
  | system (error : SystemError)
deriving DecidableEq, Repr

/-- The refusal in words. -/
def Refusal.text : Refusal → String
  | .notFound => "No path was found."
  | .zeroByte => "file name contained an unexpected NUL byte"
  | .system e => e.text

/-- The refusal for a path that leads nowhere. -/
def Refusal.ofLookup : FileTree.LookupError → Refusal
  | .missing => .notFound
  | e => .system e.system

/-- Starts a watch. A relative path is seen from the current directory, and the empty one is the
current directory. -/
def start (tree : FileTree) (root : Path) : Except Refusal FileWatch :=
  let absolute := tree.current.path.join root
  if absolute.bytes.contains 0 then .error .zeroByte
  else
    match tree.locate absolute with
    | .error e => .error (.ofLookup e)
    | .ok place => .ok ⟨absolute, place⟩

/-- The path under which a change is reported, if it is at or below the watched directory. -/
def path? (watch : FileWatch) (changed : Location) : Option Path :=
  if watch.place.isPrefixOf changed then
    some ((changed.drop watch.place.length).foldl (fun p name => p.join ⟨name⟩) watch.root)
  else none

/-- The path a change is passed on under, if it counts. -/
def report? (watch : FileWatch) (names : List String) (changed : Location) : Option Path :=
  (watch.path? changed).filter (isWatched names)

end FileWatch

end LintServer
