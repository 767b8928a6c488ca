import LintServer.FileTree
import LintServer.Json.Record
import LintServer.Log

/-!
# Packages

A linter is a package: a directory with a manifest. It is looked for from near to far, first in
the directory `node_modules` of the workspace and of everything above it, then in the configured
directories, and the first directory with a manifest is taken, whatever the manifest says.
-/

namespace LintServer

/-- A package on disk. -/
structure Package where
  name : String
  path : Path
  version : Option String
deriving DecidableEq, Repr

namespace Package

/-- The directory packages are installed in. -/
def installed : String := "node_modules"

/-- The file that makes a directory a package. -/
def manifestName : String := "package.json"

/-- The directories a package may be in, in the order in which they are looked at. There are no
packages installed directly below a directory that holds installed packages. -/
def candidates (name : String) (root : Option Path) (dirs : List Path) : List Path :=
  let above := root.elim [] fun r =>
    r.ancestors.filter fun dir => dir.fileName? != some (Utf8.ofString installed)
  (above.map fun dir => (dir.child installed).child name) ++ dirs.map fun dir => dir.child name

/-- Whether a directory has a manifest. -/
def hasManifest (files : Files) (dir : Path) : Bool := files.isFile (dir.child manifestName)

/-- A manifest, of which only the version counts, if it is a text. -/
def manifest : Json.Record (Option String) where
  name := "PackageManifest"
  field := "version"
  read := Json.textIfAny
  absent := some none

/-- The version a manifest states. One that cannot be read states none. -/
def versionOf (bytes : List UInt8) : Option String :=
  if (Utf8.decode? bytes).isSome then (manifest.parse bytes).toOption.join else none

/-- The package in a directory. -/
def inDirectory (files : Files) (name : String) (dir : Path) : Package :=
  ⟨name, dir, (files.read? (dir.child manifestName)).bind versionOf⟩

/-- **Finds a package**: the first candidate with a manifest. -/
def find? (files : Files) (name : String) (root : Option Path) (dirs : List Path) :
    Option Package :=
  ((candidates name root dirs).find? (hasManifest files)).map (inDirectory files name)

/-- What is noted down when a package is found. -/
def foundLine (package : Package) : LogLine :=
  ⟨.debug, "resolved " ++ package.name ++ " at " ++ package.path.text⟩

/-- What is noted down when a package is loaded. -/
def loadedLine (package : Package) : LogLine :=
  ⟨.info, "loaded " ++ package.name ++ " " ++ package.version.getD "(unknown version)" ++ " from "
    ++ package.path.text⟩

end Package

end LintServer
