import LintServer.FileWatch
import LintServer.Proofs.Path

/-! # Which changes a watch passes on

A watch reports a change below its directory by the directory's path as it was given, with
the names below it joined on (`Path.components_foldl_join`).  Whether the change counts is
then seen from the components of the whole path (`isWatched_iff`), and so not only from what
stands below the directory: a watch on a directory inside `node_modules` passes on nothing
(`FileWatch.passes_on_iff`, `FileWatch.installed_root_unheard`).
-/
namespace LintServer

namespace Path

/-- **An ordinary component**: what an entry of a directory can be called. -/
structure IsName (name : List UInt8) : Prop where
  nonempty : name ≠ []
  undivided : slash ∉ name
  notCurrent : name ≠ [46]
  notParent : name ≠ [46, 46]

theorem IsName.isAbsolute {name : List UInt8} (h : IsName name) :
    (⟨name⟩ : Path).isAbsolute = false := by
  cases hname : name with
  | nil => rfl
  | cons b rest =>
    have hb : b ≠ slash := by
      rintro rfl
      exact h.undivided (hname ▸ List.mem_cons_self)
    simpa [Path.isAbsolute] using hb

theorem IsName.components {name : List UInt8} (h : IsName name) :
    (⟨name⟩ : Path).components = [.name name] := by
  have hpiece : component? true name = some (.name name) := by
    simp [component?, h.nonempty, h.notCurrent, h.notParent]
  rw [Path.components, marked_of_relative h.isAbsolute, marks_of_notMem h.undivided]
  simp [mark, hpiece]

theorem components_join_name {p : Path} (hp : p.bytes ≠ []) {name : List UInt8} (h : IsName name) :
    (p.join ⟨name⟩).components = p.components ++ [.name name] := by
  rw [components_join hp h.isAbsolute, h.components]
  rfl

theorem bytes_join_ne_nil {p : Path} (hp : p.bytes ≠ []) {name : List UInt8} (h : IsName name) :
    (p.join ⟨name⟩).bytes ≠ [] := by
  simp only [join, h.isAbsolute, Bool.false_eq_true, if_false]
  split <;> simp [hp]

/-- What stands below a directory has the directory's components and its own names. -/
theorem components_foldl_join {p : Path} (hp : p.bytes ≠ []) {names : Location}
    (h : ∀ name ∈ names, IsName name) :
    (names.foldl (fun p name => p.join ⟨name⟩) p).components =
      p.components ++ names.map .name := by
  induction names generalizing p with
  | nil => simp
  | cons name more ih =>
    have hname := h name List.mem_cons_self
    have hmore := ih (bytes_join_ne_nil hp hname) fun n hn => h n (List.mem_cons_of_mem name hn)
    rw [List.foldl_cons, hmore, components_join_name hp hname]
    simp

theorem fileName?_of_components {p : Path} {front : List Component} {name : List UInt8}
    (h : p.components = front ++ [.name name]) : p.fileName? = some name := by
  simp [fileName?, h]

end Path

/-- **Which paths count**: the last component is one of the names, and no component is the
directory packages are installed in. -/
theorem isWatched_iff {names : List String} {path : Path} : isWatched names path = true ↔
    (∃ name ∈ names, path.fileName? = some (Utf8.ofString name)) ∧
      .name (Utf8.ofString Package.installed) ∉ path.components := by
  simp only [isWatched, Bool.and_eq_true, Bool.not_eq_true', Option.any_eq_true, List.any_eq_true,
    beq_iff_eq, List.any_eq_false]
  constructor
  · rintro ⟨⟨_, hlast, name, hname, rfl⟩, hnone⟩
    exact ⟨⟨name, hname, hlast⟩, fun hmem => hnone _ hmem rfl⟩
  · rintro ⟨⟨name, hname, hlast⟩, hnone⟩
    exact ⟨⟨_, hlast, name, hname, rfl⟩, fun c hc heq => hnone (heq ▸ hc)⟩

namespace FileWatch

/-- A watch on an absolute path reports by that path. -/
theorem root_of_start {tree : FileTree} {root : Path} {watch : FileWatch}
    (habsolute : root.isAbsolute = true) (h : FileWatch.start tree root = .ok watch) :
    watch.root = root := by
  have hjoin : tree.current.path.join root = root := by simp [Path.join, habsolute]
  simp only [FileWatch.start, hjoin] at h
  split at h
  · cases h
  · split at h <;> cases h
    rfl

/-- **What a watch passes on of changes below its directory.**  It reports the change of
`dirs/name` by the directory's path with these names joined on, and passes it on just if
the last of them is a watched name and neither one of them nor a component of the
directory's own path is the directory packages are installed in. -/
theorem passes_on_iff {tree : FileTree} {root : Path} {watch : FileWatch}
    (habsolute : root.isAbsolute = true) (hstart : FileWatch.start tree root = .ok watch)
    (names : List String) {dirs : Location} {name : List UInt8}
    (hnames : ∀ n ∈ dirs ++ [name], Path.IsName n) :
    ∃ path, watch.path? (watch.place ++ (dirs ++ [name])) = some path ∧
      path.components = root.components ++ (dirs ++ [name]).map .name ∧
      (watch.report? names (watch.place ++ (dirs ++ [name])) = some path ↔
        (∃ n ∈ names, name = Utf8.ofString n) ∧
        Utf8.ofString Package.installed ∉ dirs ++ [name] ∧
        .name (Utf8.ofString Package.installed) ∉ root.components) := by
  have hroot := root_of_start habsolute hstart
  have hbytes : root.bytes ≠ [] := by
    obtain ⟨rest, rfl⟩ := Path.bytes_of_absolute habsolute
    simp
  have hpath : watch.path? (watch.place ++ (dirs ++ [name])) =
      some ((dirs ++ [name]).foldl (fun p n => p.join ⟨n⟩) root) := by
    simp [path?, hroot, List.isPrefixOf_iff_prefix]
  have hcomponents := Path.components_foldl_join hbytes hnames
  have happend : root.components ++ (dirs ++ [name]).map .name =
      (root.components ++ dirs.map .name) ++ [.name name] := by simp
  have hlast := Path.fileName?_of_components (hcomponents.trans happend)
  refine ⟨_, hpath, hcomponents, ?_⟩
  rw [report?, hpath, Option.filter_some, Option.ite_none_right_eq_some, and_iff_left rfl,
    isWatched_iff, hlast, hcomponents]
  simp only [Option.some.injEq, List.mem_append, List.mem_map, Path.Component.name.injEq,
    exists_eq_right, not_or]
  rw [and_comm (a := _ ∉ root.components)]

/-! ### A workspace, and one among installed packages -/

/-- Two directories that can be watched. -/
def workspaces : FileTree where
  entries := [([Utf8.ofString "w"], .directory),
    ([Utf8.ofString "node_modules"], .directory),
    ([Utf8.ofString "node_modules", Utf8.ofString "app"], .directory)]
  current := []

theorem isName_nested :
    ∀ n ∈ [Utf8.ofString "packages", Utf8.ofString "app"] ++ [Utf8.ofString "package.json"],
      Path.IsName n := by
  intro n hn
  simp only [List.cons_append, List.nil_append, List.mem_cons, List.not_mem_nil, or_false] at hn
  rcases hn with rfl | rfl | rfl
  all_goals constructor <;> decide

/-- A manifest below the workspace is passed on. -/
theorem passes_on_iff_nested :
    FileWatch.start workspaces (.ofString "/w") = .ok ⟨.ofString "/w", [Utf8.ofString "w"]⟩ ∧
      ∃ path, FileWatch.report? ⟨.ofString "/w", [Utf8.ofString "w"]⟩ ["package.json"]
        ([Utf8.ofString "w"] ++ ([Utf8.ofString "packages", Utf8.ofString "app"] ++
          [Utf8.ofString "package.json"])) = some path := by
  have hstart : FileWatch.start workspaces (.ofString "/w") =
      .ok ⟨.ofString "/w", [Utf8.ofString "w"]⟩ := rfl
  obtain ⟨path, _, _, hreport⟩ := passes_on_iff rfl hstart ["package.json"] isName_nested
  refine ⟨hstart, path, hreport.mpr ⟨⟨"package.json", by simp, rfl⟩, by decide, by decide⟩⟩

/-- **A watch on a directory among installed packages hears nothing**: it is not so that
only what stands below the directory decides whether a change is passed on. -/
theorem installed_root_unheard : ¬ ∀ (tree : FileTree) (root : Path) (watch : FileWatch)
    (names : List String) (dirs : Location) (name : List UInt8), root.isAbsolute = true →
    FileWatch.start tree root = .ok watch → (∀ n ∈ dirs ++ [name], Path.IsName n) →
    ((watch.report? names (watch.place ++ (dirs ++ [name]))).isSome = true ↔
      (∃ n ∈ names, name = Utf8.ofString n) ∧
        Utf8.ofString Package.installed ∉ dirs ++ [name]) := by
  intro hall
  have hunheard := hall workspaces (.ofString "/node_modules/app")
    ⟨.ofString "/node_modules/app", [Utf8.ofString "node_modules", Utf8.ofString "app"]⟩
    ["package.json"] [] (Utf8.ofString "package.json") rfl rfl
    (fun n hn => isName_nested n (List.mem_append_right _ hn))
  have hsome := hunheard.mpr ⟨⟨"package.json", by simp, rfl⟩, by decide⟩
  exact absurd hsome (by decide)

end FileWatch

end LintServer
