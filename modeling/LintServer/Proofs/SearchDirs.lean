import LintServer.Engine.Node
import LintServer.Proofs.Packages
import Mathlib.Data.List.DropRight

/-! # Directories a package is looked for in after the workspace

The directories come from three places: the arguments, a list of entries between colons in
the environment, and the home.  `search_precedence` puts together how that list is made
(`Config.searchDirs_eq`) and how it is searched (`Package.find?_of_unprovided`): where the
workspace provides no package, the directory that stands first in this order decides.
-/
namespace LintServer

/-! ## Texts -/

namespace Text

theorem cut_eq_splitOnP {α : Type} (isSeparator : α → Bool) (l : List α) :
    cut isSeparator l = l.splitOnP isSeparator := by
  induction l with
  | nil => rfl
  | cons a l ih =>
    rw [cut, ih, List.splitOnP_cons_eq_if_modifyHead]
    obtain ⟨piece, more, hpieces⟩ := List.exists_cons_of_ne_nil (List.splitOnP_ne_nil isSeparator l)
    cases isSeparator a <;> simp [hpieces]

/-- Trimming leaves nothing of white space, and something of any other text. -/
theorem trim_eq_empty_iff {s : String} : trim s = "" ↔ isBlankText s = true := by
  have hempty : trim s = "" ↔ ∀ c ∈ s.toList.dropWhile isBlank, isBlank c = true := by
    rw [trim, ← String.ofList_nil, String.ofList_inj]
    exact List.rdropWhile_eq_nil_iff
  rw [hempty, isBlankText, List.all_eq_true]
  constructor
  · intro h c hc
    rw [← List.takeWhile_append_dropWhile (p := isBlank) (l := s.toList)] at hc
    obtain hc | hc := List.mem_append.mp hc
    · exact List.mem_takeWhile_imp hc
    · exact h c hc
  · intro h c hc
    exact h c ((List.dropWhile_sublist isBlank).subset hc)

end Text

/-! ## The list of directories -/

namespace Config

theorem entries_intercalate {pieces : List (List UInt8)} (h : ∀ piece ∈ pieces, colon ∉ piece) :
    entries ⟨[colon].intercalate pieces⟩ = (pieces.filter (· ≠ [])).map Path.mk := by
  rw [entries, Text.cut_eq_splitOnP, ← List.splitOn_eq_splitOnP]
  by_cases hnil : pieces = []
  · subst hnil
    rfl
  · rw [List.splitOn_intercalate colon h hnil]

theorem searchDirs_eq (given : List Path) {pieces : List (List UInt8)}
    (hpieces : ∀ piece ∈ pieces, colon ∉ piece) {home : List UInt8} (hhome : home ≠ [])
    (account : Option EnvironmentValue) :
    searchDirs given ⟨some ⟨[colon].intercalate pieces⟩, some ⟨home⟩, account⟩ =
      given ++ (pieces.filter (· ≠ [])).map Path.mk ++
        [(Path.mk home).child ".node_modules", (Path.mk home).child ".node_libraries"] := by
  have hset : Environment.home? ⟨some ⟨[colon].intercalate pieces⟩, some ⟨home⟩, account⟩ =
      some ⟨home⟩ := by
    simp [Environment.home?, Option.filter, hhome]
  rw [searchDirs, hset, Option.elim_some, entries_intercalate hpieces]
  rfl

theorem ofArguments_eq_error_iff {arguments : Launch.Arguments} {environment : Environment} :
    (∃ message, ofArguments arguments environment = .error message) ↔
      Text.trim arguments.engine = "" := by
  rw [Text.trim_eq_empty_iff, ofArguments]
  split <;> simp [*]

theorem ofArguments_eq_ok {arguments : Launch.Arguments}
    (h : Text.trim arguments.engine ≠ "") (environment : Environment) :
    ∃ config, ofArguments arguments environment = .ok config ∧
      config.engine = arguments.engine ∧ config.node = arguments.node ∧
      config.moduleDirs = searchDirs arguments.moduleDirs environment := by
  rw [Ne, Text.trim_eq_empty_iff] at h
  exact ⟨_, if_neg h, rfl, rfl, rfl⟩

end Config

/-! ## The search -/

namespace Package

/-- A directory has a package of that name. -/
def Provides (files : Files) (name : String) (dir : Path) : Prop :=
  files.isFile ((dir.child name).child "package.json") = true

instance (files : Files) (name : String) (dir : Path) : Decidable (Provides files name dir) :=
  inferInstanceAs (Decidable (_ = true))

/-- **Nothing above the root provides the package**: it is installed neither there nor in any
directory above, directories that hold installed packages left aside. -/
def Unprovided (files : Files) (name : String) (root : Option Path) : Prop :=
  ∀ r ∈ root, ∀ dir ∈ r.ancestors,
    dir.components.getLast? ≠ some (.name (Utf8.ofString "node_modules")) →
    ¬ Provides files name (dir.child "node_modules")

/-- Where nothing above the root provides the package, the directories that are given
decide. -/
theorem find?_of_unprovided {files : Files} {name : String} {root : Option Path}
    (h : Unprovided files name root) (dirs : List Path) :
    find? files name root dirs =
      ((dirs.map fun dir => dir.child name).find? (hasManifest files)).map
        (inDirectory files name) := by
  have hnone (dir : Path) (hdir : dir ∈ candidates name root []) :
      ¬ hasManifest files dir = true := by
    cases root with
    | none => cases hdir
    | some r =>
      simp only [candidates, Option.elim_some, List.map_nil, List.append_nil, List.mem_map,
        List.mem_filter, fileName?_ne_installed, decide_eq_true_eq] at hdir
      obtain ⟨above, ⟨habove, hlast⟩, rfl⟩ := hdir
      exact h r rfl above habove hlast
  have hcandidates : candidates name root dirs =
      candidates name root [] ++ dirs.map fun dir => dir.child name := by
    simp [candidates]
  rw [find?, hcandidates, List.find?_append, List.find?_eq_none.mpr hnone, Option.none_or]

/-- What stands nearer is taken. -/
theorem exists_found_of_provides {files : Files} {name : String} {nearer : List Path}
    (h : ∃ dir ∈ nearer, Provides files name dir) (farther : List Path) :
    ∃ package, Found files name ((nearer ++ farther).map fun dir => dir.child name) package ∧
      ∃ dir ∈ nearer, package.path = dir.child name := by
  obtain ⟨dir, hdir, hprovides⟩ := h
  have hfind : ((nearer.map fun dir => dir.child name).find? (hasManifest files)).isSome := by
    rw [List.find?_isSome]
    exact ⟨dir.child name, List.mem_map_of_mem hdir, hprovides⟩
  obtain ⟨taken, htaken⟩ := Option.isSome_iff_exists.mp hfind
  refine ⟨inDirectory files name taken, map_find?_eq_some_iff.mp ?_, ?_⟩
  · rw [List.map_append, List.find?_append, htaken]
    rfl
  · obtain ⟨dir, hdir, rfl⟩ := List.mem_map.mp (List.mem_of_find?_eq_some htaken)
    exact ⟨dir, hdir, rfl⟩

end Package

namespace NodeLoader

/-- The engine that is probed: that of the package that is found. -/
def Picks (loader : NodeLoader) (files : Files) (root : Option Path) (engine : NodeEngine) : Prop :=
  Package.find? files loader.name root loader.dirs = some engine.package ∧
    engine.node = loader.node

variable {loader : NodeLoader} {files : Files} {root : Option Path} {engine : NodeEngine}

theorem engine?_eq_some_iff : loader.engine? files root = some engine ↔
    loader.Picks files root engine := by
  obtain ⟨node, package⟩ := engine
  rw [engine?, Picks, Option.map_eq_some_iff]
  constructor
  · rintro ⟨_, hfind, heq⟩
    cases heq
    exact ⟨hfind, rfl⟩
  · rintro ⟨hfind, hnode⟩
    exact ⟨package, hfind, by rw [← hnode]⟩

end NodeLoader

/-- **Directories in the order in which they decide**: those of the arguments, those of the
environment, those in the home.

A configuration is refused only for a name that is blank.  Otherwise, in every file system in
which nothing above the root provides the package, it is looked for in the directories of the
configuration alone, from first to last; so directories that stand nearer win over all that
stand farther. -/
theorem search_precedence (arguments : Launch.Arguments) (pieces : List (List UInt8))
    (hpieces : ∀ piece ∈ pieces, Config.colon ∉ piece) (home : List UInt8) (hhome : home ≠ [])
    (account : Option EnvironmentValue) :
    (∀ environment, (∃ message, Config.ofArguments arguments environment = .error message) ↔
      Text.trim arguments.engine = "") ∧
    (Text.trim arguments.engine ≠ "" → ∃ config,
      Config.ofArguments arguments
        ⟨some ⟨[Config.colon].intercalate pieces⟩, some ⟨home⟩, account⟩ = .ok config ∧
      config.moduleDirs = arguments.moduleDirs ++ (pieces.filter (· ≠ [])).map Path.mk ++
        [(Path.mk home).child ".node_modules", (Path.mk home).child ".node_libraries"] ∧
      ∀ files root, Package.Unprovided files arguments.engine root →
        (∀ engine, (NodeLoader.ofConfig config).engine? files root = some engine ↔
          engine.node = arguments.node ∧
          Package.Found files arguments.engine
            (config.moduleDirs.map fun dir => dir.child arguments.engine) engine.package) ∧
        ((NodeLoader.ofConfig config).engine? files root = none ↔
          ∀ dir ∈ config.moduleDirs, ¬ Package.Provides files arguments.engine dir) ∧
        ∀ nearer farther, config.moduleDirs = nearer ++ farther →
          (∃ dir ∈ nearer, Package.Provides files arguments.engine dir) →
          ∃ engine, (NodeLoader.ofConfig config).engine? files root = some engine ∧
            ∃ dir ∈ nearer, engine.package.path = dir.child arguments.engine) := by
  refine ⟨fun environment => Config.ofArguments_eq_error_iff, fun hengine => ?_⟩
  obtain ⟨config, hconfig, hname, hnode, hdirs⟩ := Config.ofArguments_eq_ok hengine
    ⟨some ⟨[Config.colon].intercalate pieces⟩, some ⟨home⟩, account⟩
  refine ⟨config, hconfig, hdirs.trans (Config.searchDirs_eq _ hpieces hhome account), ?_⟩
  intro files root hroot
  have hfound (engine : NodeEngine) :
      (NodeLoader.ofConfig config).engine? files root = some engine ↔
        engine.node = arguments.node ∧
        Package.Found files arguments.engine
          (config.moduleDirs.map fun dir => dir.child arguments.engine) engine.package := by
    rw [NodeLoader.engine?_eq_some_iff, NodeLoader.Picks, NodeLoader.ofConfig, hname, hnode,
      Package.find?_of_unprovided hroot, Package.map_find?_eq_some_iff]
    exact and_comm
  refine ⟨hfound, ?_, fun nearer farther hsplit hnearer => ?_⟩
  · rw [NodeLoader.engine?, NodeLoader.ofConfig, hname, Option.map_eq_none_iff,
      Package.find?_of_unprovided hroot, Package.map_find?_eq_none_iff]
    simp [Package.Provides]
  · obtain ⟨package, hpackage, hpath⟩ := Package.exists_found_of_provides hnearer farther
    refine ⟨⟨arguments.node, package⟩, (hfound _).mpr ⟨rfl, ?_⟩, hpath⟩
    rw [hsplit]
    exact hpackage

namespace Sample

/-- One directory is given. -/
def launch : Launch.Arguments := ⟨"standard", "node", [.ofString "/m"], [], "info"⟩

/-- Two entries of the environment's list are empty. -/
def launchEnvironment : Environment := ⟨some ⟨[58, 47, 110, 58]⟩, some ⟨[47, 104]⟩, none⟩

/-- The package is in a directory of the list and in the home. -/
def listAndHome : FileTree where
  entries := [([[110]], .directory), ([[110], Utf8.ofString "standard"], .directory),
    ([[110], Utf8.ofString "standard", Utf8.ofString "package.json"], .file []),
    ([[104]], .directory), ([[104], Utf8.ofString ".node_modules"], .directory),
    ([[104], Utf8.ofString ".node_modules", Utf8.ofString "standard"], .directory),
    ([[104], Utf8.ofString ".node_modules", Utf8.ofString "standard",
      Utf8.ofString "package.json"], .file [])]
  current := []

end Sample

/-- The list of the environment wins over the home. -/
theorem search_precedence_over_home :
    Package.Unprovided Sample.listAndHome "standard" (some (.ofString "/w")) ∧
      ∃ config, Config.ofArguments Sample.launch Sample.launchEnvironment = .ok config ∧
        config.moduleDirs = [.ofString "/m", .ofString "/n", .ofString "/h/.node_modules",
          .ofString "/h/.node_libraries"] ∧
        ∃ engine, (NodeLoader.ofConfig config).engine? Sample.listAndHome
            (some (.ofString "/w")) = some engine ∧
          engine.package.path ∈ [Path.ofString "/m/standard", .ofString "/n/standard"] := by
  have hroot : Package.Unprovided Sample.listAndHome "standard" (some (.ofString "/w")) := by
    rintro r ⟨⟩
    decide +kernel
  refine ⟨hroot, ?_⟩
  obtain ⟨config, hconfig, hdirs, hsearch⟩ := (search_precedence Sample.launch
    [[], [47, 110], []] (by decide) [47, 104] (by decide) none).2 (by decide +kernel)
  refine ⟨config, hconfig, hdirs.trans (by decide +kernel), ?_⟩
  obtain ⟨-, -, hnearer⟩ := hsearch Sample.listAndHome _ hroot
  obtain ⟨engine, hengine, dir, hdir, hpath⟩ := hnearer _ _ hdirs
    ⟨.ofString "/n", by decide +kernel, by decide +kernel⟩
  refine ⟨engine, hengine, ?_⟩
  have htwo : ∀ dir ∈ [Path.ofString "/m", .ofString "/n"],
      dir.child "standard" ∈ [Path.ofString "/m/standard", .ofString "/n/standard"] := by
    decide +kernel
  rw [hpath]
  exact htwo dir hdir

end LintServer
