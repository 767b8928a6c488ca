import LintServer.Package
import LintServer.Proofs.Json.Records
import LintServer.Proofs.Path
import LintServer.Proofs.Text.Utf8

/-! # Finding packages

A package is looked for in one directory after another.  `Searched` says which directories
these are and in which order, in terms of the directories the workspace leads through
(`Path.Climbs`), and `Found` which package is found there: the one in the first directory
with a manifest.

`nearest_package` says that this is what is found, in every file system.  So only the
directories up to the one that was taken have a say, and what its manifest says is read for
the version alone.
-/
namespace LintServer.Package
open Json Json.Grammar Json.Reader

/-! ## Versions -/

/-- **The version a manifest states**: the manifest is a text and a record, and its field
`version` is a text. -/
def States (bytes : List UInt8) (version : String) : Prop :=
  (∃ cs, bytes = Utf8.encode cs) ∧
    Entire (manifest.Written (IfText (depthLimit - 1))) bytes (some version)

theorem versionOf_eq_some_iff {bytes : List UInt8} {version : String} :
    versionOf bytes = some version ↔ States bytes version := by
  have hread : manifest.parse bytes = .ok (some version) ↔
      Entire (manifest.Written (IfText (depthLimit - 1))) bytes (some version) :=
    Record.parse_eq_ok_iff (reads_textIfAny (depthLimit - 1))
  have htext : (Utf8.decode? bytes).isSome = true ↔ ∃ cs, bytes = Utf8.encode cs := by
    rw [Option.isSome_iff_exists]
    exact exists_congr fun cs => Utf8.decode?_eq_some_iff
  rw [States, ← hread, ← htext, versionOf]
  split
  next h =>
    rw [Option.join_eq_some_iff]
    cases manifest.parse bytes <;> simp [h, Except.toOption]
  next h => simp [h]

/-! ## Directories -/

/-- **Where a package is looked for, in this order**: in the packages installed in each
directory the root leads through, but for directories that hold installed packages, and then
in the directories that are given. -/
def Searched (name : String) (root : Option Path) (dirs candidates : List Path) : Prop :=
  ∃ above : List Path, (root.elim (above = []) fun r => r.Climbs above) ∧
    candidates =
      ((above.filter fun dir =>
          dir.components.getLast? ≠ some (.name (Utf8.ofString "node_modules"))).map
        fun dir => (dir.child "node_modules").child name) ++
      dirs.map fun dir => dir.child name

theorem fileName?_ne_installed (dir : Path) :
    (dir.fileName? != some (Utf8.ofString installed)) =
      decide (dir.components.getLast? ≠ some (.name (Utf8.ofString "node_modules"))) := by
  rw [bne, beq_eq_decide, ← decide_not]
  refine decide_eq_decide.mpr (not_congr ?_)
  unfold Path.fileName?
  split
  next n hlast => simp [hlast, installed]
  next hlast => exact iff_of_false (by simp) fun h => hlast _ h

theorem searched_candidates (name : String) (root : Option Path) (dirs : List Path) :
    Searched name root dirs (candidates name root dirs) := by
  cases root with
  | none => exact ⟨[], rfl, rfl⟩
  | some r =>
    refine ⟨r.ancestors, r.climbs_ancestors, ?_⟩
    simp only [candidates, Option.elim_some, fileName?_ne_installed]
    rfl

/-! ## Packages -/

/-- **The package that is found** in a list of directories: it is in the first one with a
manifest, and its version is the one that manifest states, if any. -/
structure Found (files : Files) (name : String) (candidates : List Path) (package : Package) :
    Prop where
  first : ∃ before after, candidates = before ++ package.path :: after ∧
    ∀ dir ∈ before, files.isFile (dir.child "package.json") = false
  isFile : files.isFile (package.path.child "package.json") = true
  name : package.name = name
  version : ∀ version, package.version = some version ↔
    ∃ bytes, files.read? (package.path.child "package.json") = some bytes ∧ States bytes version

theorem version_inDirectory {files : Files} {name : String} {dir : Path} {version : String} :
    (inDirectory files name dir).version = some version ↔
      ∃ bytes, files.read? (dir.child "package.json") = some bytes ∧ States bytes version := by
  simp only [inDirectory, Option.bind_eq_some_iff, versionOf_eq_some_iff]
  rfl

theorem map_find?_eq_some_iff {files : Files} {name : String} {candidates : List Path}
    {package : Package} :
    (candidates.find? (hasManifest files)).map (inDirectory files name) = some package ↔
      Found files name candidates package := by
  rw [Option.map_eq_some_iff]
  constructor
  · rintro ⟨dir, hfind, rfl⟩
    obtain ⟨hfile, before, after, hsplit, hbefore⟩ := List.find?_eq_some_iff_append.mp hfind
    refine ⟨⟨before, after, hsplit, fun dir hdir => ?_⟩, hfile, rfl,
      fun version => version_inDirectory⟩
    simpa [hasManifest, manifestName] using hbefore dir hdir
  · rintro ⟨⟨before, after, hsplit, hbefore⟩, hfile, hname, hversion⟩
    refine ⟨package.path, List.find?_eq_some_iff_append.mpr ⟨hfile, before, after, hsplit, ?_⟩, ?_⟩
    · intro dir hdir
      simpa [hasManifest, manifestName] using hbefore dir hdir
    · obtain ⟨name', path, version⟩ := package
      obtain rfl : name' = name := hname
      have hsame : (inDirectory files name' path).version = version :=
        Option.ext fun v => version_inDirectory.trans (hversion v).symm
      rw [← hsame]
      rfl

theorem map_find?_eq_none_iff {files : Files} {name : String} {candidates : List Path} :
    (candidates.find? (hasManifest files)).map (inDirectory files name) = none ↔
      ∀ dir ∈ candidates, files.isFile (dir.child "package.json") = false := by
  rw [Option.map_eq_none_iff, List.find?_eq_none]
  simp [hasManifest, manifestName]

/-- What stands behind the package that was found has no say. -/
theorem Found.of_agree {files files' : Files} {name : String} {before after : List Path}
    {package : Package} (h : Found files name (before ++ package.path :: after) package)
    (hbefore : ∀ dir ∈ before, files'.isFile (dir.child "package.json") = false)
    (hfile : files'.isFile (package.path.child "package.json") = true)
    (hread : files'.read? (package.path.child "package.json") =
      files.read? (package.path.child "package.json")) :
    Found files' name (before ++ package.path :: after) package where
  first := ⟨before, after, rfl, hbefore⟩
  isFile := hfile
  name := h.name
  version := by
    rw [hread]
    exact h.version

/-- What the manifests say has no say in where the package is found. -/
theorem path_of_isFile_eq {files files' : Files} {name : String} {candidates : List Path}
    (h : files'.isFile = files.isFile) :
    ((candidates.find? (hasManifest files')).map (inDirectory files' name)).map path =
      ((candidates.find? (hasManifest files)).map (inDirectory files name)).map path := by
  have hmanifest : hasManifest files' = hasManifest files := by
    funext dir
    rw [hasManifest, hasManifest, h]
  rw [hmanifest, Option.map_map, Option.map_map]
  rfl

/-- **The nearest package is found**, in every file system.

There is none exactly if no directory that is looked at has a manifest, and otherwise it is
the one in the first directory that has.  Only that directory, its manifest and the
directories before it have a say, and where the package is does not depend on what any
manifest says. -/
theorem nearest_package {name : String} (hname : (Path.ofString name).isAbsolute = false)
    (root : Option Path) (dirs : List Path) :
    Searched name root dirs (candidates name root dirs) ∧
      (∀ dir : Path, dir.Holds (.ofString "node_modules") (dir.child "node_modules") ∧
        dir.Holds (.ofString name) (dir.child name)) ∧
      (∀ files, find? files name root dirs = none ↔
        ∀ dir ∈ candidates name root dirs, files.isFile (dir.child "package.json") = false) ∧
      (∀ files package, find? files name root dirs = some package ↔
        Found files name (candidates name root dirs) package) ∧
      (∀ files package before after,
        candidates name root dirs = before ++ package.path :: after →
        find? files name root dirs = some package → ∀ files' : Files,
        (∀ dir ∈ before, files'.isFile (dir.child "package.json") = false) →
        files'.isFile (package.path.child "package.json") = true →
        files'.read? (package.path.child "package.json") =
          files.read? (package.path.child "package.json") →
        find? files' name root dirs = some package) ∧
      ∀ files files' : Files, files'.isFile = files.isFile →
        (find? files' name root dirs).map path = (find? files name root dirs).map path := by
  refine ⟨searched_candidates name root dirs, fun dir =>
    ⟨Path.holds_child rfl dir, Path.holds_child hname dir⟩, fun files => map_find?_eq_none_iff,
    fun files package => map_find?_eq_some_iff, ?_, fun files files' h => path_of_isFile_eq h⟩
  intro files package before after hsplit hfind files' hbefore hfile hread
  have hfound := map_find?_eq_some_iff.mp hfind
  refine map_find?_eq_some_iff.mpr ?_
  rw [hsplit] at hfound ⊢
  exact hfound.of_agree hbefore hfile hread

namespace Sample

/-- A workspace that is an installed package itself. -/
def workspace : Path := .ofString "/w//app/node_modules/x/"

/-- The package in `/w/node_modules`. -/
def near : List (Location × FileNode) :=
  [([[119]], .directory), ([[119], Utf8.ofString "node_modules"], .directory),
    ([[119], Utf8.ofString "node_modules", Utf8.ofString "standard"], .directory),
    ([[119], Utf8.ofString "node_modules", Utf8.ofString "standard",
      Utf8.ofString "package.json"], .file (Utf8.ofString "\x7b\"version\": \"1.2\"\x7d"))]

/-- The package in `/o`, with a manifest that is none. -/
def far : List (Location × FileNode) :=
  [([[111]], .directory), ([[111], Utf8.ofString "standard"], .directory),
    ([[111], Utf8.ofString "standard", Utf8.ofString "package.json"], .file [])]

end Sample

/-- The package is found past a directory of installed packages, and without the one farther
away it is found just the same. -/
theorem nearest_package_nested :
    (Path.ofString "standard").isAbsolute = false ∧
      ∀ entries ∈ [Sample.near ++ Sample.far, Sample.near],
        find? (FileTree.mk entries []) "standard" (some Sample.workspace) [.ofString "/o"] =
          some ⟨"standard", .ofString "/w/node_modules/standard", some "1.2"⟩ := by
  have hname : (Path.ofString "standard").isAbsolute = false := by decide +kernel
  have hfind : find? (FileTree.mk (Sample.near ++ Sample.far) []) "standard"
      (some Sample.workspace) [.ofString "/o"] =
        some ⟨"standard", .ofString "/w/node_modules/standard", some "1.2"⟩ := by decide +kernel
  have hsplit : candidates "standard" (some Sample.workspace) [.ofString "/o"] =
      [.ofString "/w//app/node_modules/x/node_modules/standard",
        .ofString "/w//app/node_modules/standard"] ++
      .ofString "/w/node_modules/standard" ::
        [.ofString "/node_modules/standard", .ofString "/o/standard"] := by decide +kernel
  refine ⟨hname, fun entries hentries => ?_⟩
  obtain rfl | rfl := List.mem_pair.mp hentries
  · exact hfind
  · obtain ⟨-, -, -, -, hagree, -⟩ :=
      nearest_package hname (some Sample.workspace) [.ofString "/o"]
    exact hagree _ _ _ _ hsplit hfind (FileTree.mk Sample.near []) (by decide +kernel)
      (by decide +kernel) (by decide +kernel)

end LintServer.Package
