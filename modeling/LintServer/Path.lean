import LintServer.Text.Utf8

/-!
# File paths

A path is a string of bytes in which slashes separate the components. It keeps the bytes it was
written with: `join` only appends, and `parent?` cuts off a suffix. Components are what the path
means: repeated slashes, a slash at the end and a dot that is not in front say nothing.
-/

namespace LintServer

/-- A file path, as written. -/
structure Path where
  bytes : List UInt8
deriving DecidableEq, Repr

namespace Path

/-- What one stretch of a path means. -/
inductive Component
  | root
  | current
  | parent
  | name (bytes : List UInt8)
deriving DecidableEq, Repr

/-- The path written as a text. -/
def ofString (s : String) : Path := ⟨Utf8.ofString s⟩

/-- The path as a text, with U+FFFD for bytes that are no characters. -/
def text (p : Path) : String := Utf8.lossy p.bytes

/-- The slash. -/
def slash : UInt8 := 47

/-- Whether the path starts at the root. -/
def isAbsolute (p : Path) : Bool := p.bytes.head? == some slash

/-- The component a stretch between slashes stands for, if any; a dot counts only in front of a
relative path. -/
def component? (inFront : Bool) (piece : List UInt8) : Option Component :=
  if piece = [] then none
  else if piece = [46] then (if inFront then some .current else none)
  else if piece = [46, 46] then some .parent
  else some (.name piece)

/-- The stretches between slashes, each with the number of bytes up to its end. -/
def stretches (done : Nat) (piece : List UInt8) : List UInt8 → List (List UInt8 × Nat)
  | [] => [(piece.reverse, done)]
  | b :: r =>
    if b = slash then (piece.reverse, done) :: stretches (done + 1) [] r
    else stretches (done + 1) (b :: piece) r

/-- The components of a path, each with the number of bytes up to its end. -/
def marked (p : Path) : List (Component × Nat) :=
  let all := stretches 0 [] p.bytes
  let inFront := (all.head?.bind fun (s, e) => (component? true s).map fun c => (c, e)).toList
  let front := if p.isAbsolute then [(Component.root, 1)] else inFront
  front ++ all.tail.filterMap fun (s, e) => (component? false s).map fun c => (c, e)

/-- The components of a path. -/
def components (p : Path) : List Component := p.marked.map (·.1)

/-- The last component, when it is a name. -/
def fileName? (p : Path) : Option (List UInt8) :=
  match p.components.getLast? with
  | some (.name n) => some n
  | _ => none

/-- The path without its last component. The root and the empty path have none. -/
def parent? (p : Path) : Option Path :=
  match p.marked.reverse with
  | [] => none
  | [(c, _)] => if c = .root then none else some ⟨[]⟩
  | _ :: (_, stop) :: _ => some ⟨p.bytes.take stop⟩

/-- The path, its parent, the parent's parent and so on, `fuel` steps up at most. -/
def upward : (fuel : Nat) → Path → List Path
  | 0, p => [p]
  | fuel + 1, p => p :: (p.parent?.map (upward fuel)).getD []

/-- The path and all paths above it, nearest first. Each step up drops a component. -/
def ancestors (p : Path) : List Path := upward p.marked.length p

/-- One path inside another; an absolute path stands for itself. -/
def join (p q : Path) : Path :=
  if q.isAbsolute then q
  else if p.bytes = [] ∨ p.bytes.getLast? = some slash then ⟨p.bytes ++ q.bytes⟩
  else ⟨p.bytes ++ slash :: q.bytes⟩

/-- A named entry inside a directory. -/
def child (p : Path) (name : String) : Path := p.join (ofString name)

end Path

end LintServer
