import LintServer.Path
import LintServer.SystemError

/-!
# File trees

The files and directories a program can see, as a value. A path is looked up one component after
another: everything but the last has to be a directory, `..` goes up, and a slash at the end asks
for a directory. Names and paths have a longest length (`nameLimit`, `pathLimit`), and the first
component that cannot be looked up decides what is wrong.
-/

namespace LintServer

/-- Names from the root down. -/
abbrev Location := List (List UInt8)

/-- A location as an absolute path. -/
def Location.path (place : Location) : Path :=
  if place = [] then ⟨[Path.slash]⟩ else ⟨place.flatMap (Path.slash :: ·)⟩

/-- What stands at a location. -/
inductive FileNode
  | directory
  | file (bytes : List UInt8)
  | program
deriving DecidableEq, Repr

/-- A file tree and the directory that relative paths start from. -/
structure FileTree where
  entries : List (Location × FileNode)
  current : Location
deriving Repr

namespace FileTree

/-- What stands at a location. The root is a directory. -/
def node? (tree : FileTree) (place : Location) : Option FileNode :=
  if place = [] then some .directory else tree.entries.lookup place

/-- Whether a directory stands at a location. -/
def isDirectoryAt (tree : FileTree) (place : Location) : Bool :=
  tree.node? place == some .directory

/-- Why a path leads nowhere. -/
inductive LookupError
  | missing
  | notDirectory
  | tooLong
deriving DecidableEq, Repr

/-- What the system says about it. -/
def LookupError.system : LookupError → SystemError
  | .missing => .noEntry
  | .notDirectory => .noDirectory
  | .tooLong => .nameTooLong

/-- How many bytes a name may have. -/
def nameLimit : Nat := 255

/-- How many bytes a path may have. -/
def pathLimit : Nat := 4095

/-- Whether one may go on from a location. -/
def enter (tree : FileTree) (place : Location) : Except LookupError Unit :=
  match tree.node? place with
  | none => .error .missing
  | some .directory => .ok ()
  | some _ => .error .notDirectory

/-- Goes along components; every place that is left has to be a directory. -/
def walk (tree : FileTree) (place : Location) : List Path.Component → Except LookupError Location
  | [] => .ok place
  | .root :: more => walk tree [] more
  | .current :: more => (tree.enter place).bind fun _ => walk tree place more
  | .parent :: more => (tree.enter place).bind fun _ => walk tree place.dropLast more
  | .name n :: more =>
    (tree.enter place).bind fun _ =>
      if nameLimit < n.length then .error .tooLong else walk tree (place ++ [n]) more

/-- Whether a path ends so that only a directory can be meant. -/
def wantsDirectory (p : Path) : Bool :=
  p.bytes.getLast? == some Path.slash
    || ((Path.stretches 0 [] p.bytes).getLast?.map (·.1)) == some [46]

/-- The location a path leads to, seen from a directory. The empty path leads nowhere. -/
def locateFrom (tree : FileTree) (start : Location) (p : Path) : Except LookupError Location :=
  if p.bytes = [] then .error .missing
  else if pathLimit < p.bytes.length then .error .tooLong
  else
    (tree.walk start p.components).bind fun place =>
      match tree.node? place with
      | none => .error .missing
      | some .directory => .ok place
      | some _ => if wantsDirectory p then .error .notDirectory else .ok place

/-- The location a path leads to. -/
def locate (tree : FileTree) (p : Path) : Except LookupError Location :=
  tree.locateFrom tree.current p

/-- What a path leads to; a path with a zero byte leads to nothing. -/
def find? (tree : FileTree) (p : Path) : Option FileNode :=
  if p.bytes.contains 0 then none else (tree.locate p).toOption.bind tree.node?

/-- The bytes of the file a path leads to. -/
def read? (tree : FileTree) (p : Path) : Option (List UInt8) :=
  match tree.find? p with
  | some (.file bytes) => some bytes
  | some .program => some []
  | _ => none

/-- Whether a path leads to a file. -/
def isFile (tree : FileTree) (p : Path) : Bool := (tree.read? p).isSome

/-- Puts an entry at a location, in place of what stood there. -/
def put (tree : FileTree) (place : Location) (node : FileNode) : FileTree :=
  { tree with entries := (place, node) :: tree.entries.filter fun e => e.1 != place }

/-- Makes a directory of a location and of everything above it. -/
def makeDirectory (tree : FileTree) (place : Location) : FileTree :=
  (List.range place.length).foldl
    (fun t i =>
      let above := place.take (i + 1)
      if t.isDirectoryAt above then t else t.put above .directory)
    tree

/-- Puts an entry at a location and directories above it. -/
def install (tree : FileTree) (place : Location) (node : FileNode) : FileTree :=
  (tree.makeDirectory place.dropLast).put place node

end FileTree

/-- What can be found out about files: whether a path leads to one, and the bytes that can be read
there. A file may be there and not be readable. -/
structure Files where
  isFile : Path → Bool
  read? : Path → Option (List UInt8)

/-- The files of a tree, all of which can be read. -/
def FileTree.files (tree : FileTree) : Files := ⟨tree.isFile, tree.read?⟩

instance : Coe FileTree Files := ⟨FileTree.files⟩

end LintServer
