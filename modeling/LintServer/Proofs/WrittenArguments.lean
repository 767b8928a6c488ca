import LintServer.Launch.Arguments
import Mathlib.Data.List.Perm.Basic
import Mathlib.Data.List.TakeWhile

/-! # Arguments as they are written

Someone who launches the server has some values in mind and writes them down: each behind
its flag, attached or in an argument of its own, and in any order, as long as directories
and watched names keep theirs.  `parse_written` says that reading gives the values back,
whichever way they were written, and that a flag which takes one value is refused the
second time.

Reading is cut in two.  `Writes.read_eq` says that reading what was written takes the
settings in from left to right, with what is pending taken in before.  Taking in is followed
through `Given.values`, the values under each flag in their order: one setting adds its
value under its own flag (`values_of_take`), so in the end only the order under each flag
counts (`takeAll_of_room`), and that order no shuffle changes (`Shuffles.valuesOf_eq`).
-/
namespace LintServer.Launch

/-! ## Settings and how they are written -/

/-- A flag with its value. -/
structure Setting where
  flag : Flag
  value : String
deriving DecidableEq, Repr

/-- The argument of a flag whose value stands in the next one. -/
def Flag.bare (flag : Flag) : String := "--" ++ flag.name

/-- The argument in which a value is attached to its flag. -/
def Setting.attached (s : Setting) : String := s.flag.bare ++ "=" ++ s.value

/-- **Arguments written for settings**, in the order of the settings.  Any value can be
attached to its flag; one that does not start with a dash can also stand in an argument of its
own. -/
inductive Writes : List Setting → List String → Prop
  | nil : Writes [] []
  | attached (s : Setting) {more : List Setting} {arguments : List String}
    (h : Writes more arguments) : Writes (s :: more) (s.attached :: arguments)
  | apart (s : Setting) (hdash : s.value.toList.head? ≠ some '-') {more : List Setting}
    {arguments : List String} (h : Writes more arguments) :
    Writes (s :: more) (s.flag.bare :: s.value :: arguments)

/-- Whether a flag can be given more than once. -/
def Flag.repeats : Flag → Bool
  | .moduleDir | .watch => true
  | .engine | .node | .logLevel => false

/-- The values under a flag, in their order. -/
def valuesOf (flag : Flag) (settings : List Setting) : List String :=
  (settings.filter (·.flag = flag)).map Setting.value

/-- **Settings in another order**, in which flags that can be given more than once have their
values in the order they had. -/
structure Shuffles (settings shuffled : List Setting) : Prop where
  perm : shuffled.Perm settings
  kept : ∀ flag, flag.repeats = true → valuesOf flag shuffled = valuesOf flag settings

namespace Given

/-- The values that are given for a flag. -/
def values (given : Given) : Flag → List String
  | .engine => given.engine.toList
  | .node => given.node.toList
  | .moduleDir => given.moduleDirs
  | .watch => given.watch
  | .logLevel => given.logLevel.toList

/-- The values that are given, each with its flag. -/
def settings (given : Given) : List Setting :=
  [Flag.engine, .node, .moduleDir, .watch, .logLevel].flatMap fun flag =>
    (given.values flag).map (Setting.mk flag)

/-- Takes settings in, one after the other. -/
def takeAll (given : Given) (settings : List Setting) : Except ArgumentError Given :=
  settings.foldlM (fun given s => given.take s.flag s.value) given

end Given

/-! ## The shape of what is written -/

theorem Flag.ofName?_name (flag : Flag) : Flag.ofName? flag.name = some flag := by
  cases flag <;> decide

theorem Flag.name_ne_nil (flag : Flag) : flag.name.toList ≠ [] := by
  cases flag <;> decide

theorem Flag.ne_equals_of_mem_name (flag : Flag) : ∀ c ∈ flag.name.toList, (c != '=') = true := by
  cases flag <;> simp [Flag.name]

theorem Flag.toList_bare (flag : Flag) : flag.bare.toList = '-' :: '-' :: flag.name.toList := by
  rw [Flag.bare, String.toList_append]
  rfl

theorem Setting.toList_attached (s : Setting) :
    s.attached.toList = '-' :: '-' :: (s.flag.name.toList ++ '=' :: s.value.toList) := by
  rw [Setting.attached, String.toList_append, String.toList_append, Flag.toList_bare]
  simp

/-- Behind two dashes stand a name and, after an equals sign, perhaps a value. -/
theorem Shape.ofChars_long {rest : List Char} (h : rest ≠ []) :
    Shape.ofChars ('-' :: '-' :: rest) =
      .long (String.ofList (rest.takeWhile (· != '=')))
        ((rest.dropWhile (· != '=')).tail?.map String.ofList) := by
  rw [Shape.ofChars]
  · cases rest.dropWhile (· != '=') <;> rfl
  · intro hrest
    exact h (by simpa using hrest)

theorem Setting.shape_attached (s : Setting) :
    Shape.ofChars s.attached.toList = .long s.flag.name (some s.value) := by
  rw [Setting.toList_attached, Shape.ofChars_long (by simp),
    List.takeWhile_append_of_pos s.flag.ne_equals_of_mem_name,
    List.dropWhile_append_of_pos s.flag.ne_equals_of_mem_name]
  simp

theorem Flag.shape_bare (flag : Flag) : Shape.ofChars flag.bare.toList = .long flag.name none := by
  rw [Flag.toList_bare, Shape.ofChars_long flag.name_ne_nil,
    List.takeWhile_eq_self_iff.mpr flag.ne_equals_of_mem_name,
    List.dropWhile_eq_nil_iff.mpr flag.ne_equals_of_mem_name]
  simp

theorem Shape.ofChars_plain {cs : List Char} (h : cs.head? ≠ some '-') :
    Shape.ofChars cs = .plain := by
  unfold Shape.ofChars
  split <;> simp_all

/-! ## Reading what is written -/

theorem Given.read_attached (given : Given) (pending : Pending) (s : Setting)
    (more : List String) :
    given.read pending (s.attached :: more) =
      (given.settle pending).bind fun given =>
        (given.take s.flag s.value).bind fun given => given.read .nothing more := by
  rw [Given.read.eq_def]
  simp only [s.shape_attached, s.flag.ofName?_name]

theorem Given.read_bare (given : Given) (pending : Pending) (flag : Flag) (more : List String) :
    given.read pending (flag.bare :: more) =
      (given.settle pending).bind fun given => given.read (.waiting flag) more := by
  rw [Given.read.eq_def]
  simp only [flag.shape_bare, flag.ofName?_name]

theorem Given.read_plain (given : Given) (flag : Flag) {value : String}
    (h : value.toList.head? ≠ some '-') (more : List String) :
    given.read (.waiting flag) (value :: more) = given.read (.complete flag value) more := by
  rw [Given.read.eq_def]
  simp only [Shape.ofChars_plain h]

/-- **Reading takes the settings in**, from left to right, after what is pending. -/
theorem Writes.read_eq {settings : List Setting} {arguments : List String}
    (h : Writes settings arguments) (given : Given) (pending : Pending) :
    given.read pending arguments =
      (given.settle pending).bind fun given => given.takeAll settings := by
  -- a value in an argument of its own is still pending when the next setting is reached
  induction h generalizing given pending with
  | nil =>
    show given.settle pending = _
    cases given.settle pending <;> rfl
  | attached s _ ih =>
    rw [Given.read_attached]
    simp only [ih]
    rfl
  | apart s hdash _ ih =>
    rw [Given.read_bare]
    simp only [Given.read_plain _ _ hdash, ih]
    rfl

theorem Writes.append {settings more : List Setting} {arguments others : List String}
    (h : Writes settings arguments) (hmore : Writes more others) :
    Writes (settings ++ more) (arguments ++ others) := by
  induction h with
  | nil => exact hmore
  | attached s _ ih => exact .attached s ih
  | apart s hdash _ ih => exact .apart s hdash ih

/-! ## Values under a flag -/

theorem valuesOf_append (flag : Flag) (settings more : List Setting) :
    valuesOf flag (settings ++ more) = valuesOf flag settings ++ valuesOf flag more := by
  simp [valuesOf]

theorem valuesOf_cons (flag : Flag) (s : Setting) (settings : List Setting) :
    valuesOf flag (s :: settings) = valuesOf flag [s] ++ valuesOf flag settings :=
  valuesOf_append flag [s] settings

theorem valuesOf_ne_nil_iff {flag : Flag} {settings : List Setting} :
    valuesOf flag settings ≠ [] ↔ flag ∈ settings.map Setting.flag := by
  simp [valuesOf, List.filter_eq_nil_iff]

namespace Given

/-- What is given is known from the values under each flag. -/
theorem eq_of_values_eq {a b : Given} (h : ∀ flag, a.values flag = b.values flag) : a = b := by
  have hone {o o' : Option String} (ho : o.toList = o'.toList) : o = o' := by
    simpa using congrArg List.head? ho
  have hengine : a.engine = b.engine := hone (h .engine)
  have hnode : a.node = b.node := hone (h .node)
  have hdirs : a.moduleDirs = b.moduleDirs := h .moduleDir
  have hwatch : a.watch = b.watch := h .watch
  have hlevel : a.logLevel = b.logLevel := hone (h .logLevel)
  obtain ⟨engine, node, dirs, watch, level⟩ := a
  obtain ⟨engine', node', dirs', watch', level'⟩ := b
  simp_all

/-- A flag that is given once has one value or none. -/
theorem exists_values_eq_toList (given : Given) {flag : Flag} (h : flag.repeats = false) :
    ∃ value : Option String, given.values flag = value.toList := by
  cases flag with
  | engine | node | logLevel => exact ⟨_, rfl⟩
  | moduleDir | watch => cases h

theorem valuesOf_settings (given : Given) (flag : Flag) :
    valuesOf flag given.settings = given.values flag := by
  have hown (f : Flag) : valuesOf flag ((given.values f).map (Setting.mk f)) =
      if f = flag then given.values f else [] := by
    by_cases hf : f = flag <;> simp [valuesOf, hf, List.filter_map, Function.comp_def]
  simp only [settings, List.flatMap_cons, List.flatMap_nil, valuesOf_append, hown]
  cases flag <;> simp [valuesOf]

end Given

/-- **No shuffle changes the values under a flag.**  Where the flag can be given more than once
this is asked for; where it is given once there is nothing to change. -/
theorem Shuffles.valuesOf_eq {given : Given} {settings : List Setting}
    (h : Shuffles given.settings settings) (flag : Flag) :
    valuesOf flag settings = given.values flag := by
  rw [← given.valuesOf_settings]
  by_cases hflag : flag.repeats = true
  · exact h.kept flag hflag
  · have hperm : (valuesOf flag settings).Perm (valuesOf flag given.settings) :=
      (h.perm.filter _).map _
    obtain ⟨value, hvalue⟩ := given.exists_values_eq_toList (Bool.eq_false_iff.mpr hflag)
    rw [given.valuesOf_settings, hvalue] at hperm ⊢
    cases value with
    | none => exact hperm.eq_nil
    | some value => exact List.perm_singleton.mp hperm

/-! ## Taking settings in -/

namespace Given

theorem takeAll_append (given : Given) (settings more : List Setting) :
    given.takeAll (settings ++ more) =
      (given.takeAll settings).bind fun given => given.takeAll more :=
  List.foldlM_append

/-- **A setting adds its value under its own flag**, if there is room for it and it is no empty
directory. -/
theorem values_of_take (given : Given) (s : Setting)
    (hroom : s.flag.repeats = false → given.values s.flag = [])
    (hdir : s.flag = .moduleDir → s.value ≠ "") :
    ∃ next, given.take s.flag s.value = .ok next ∧
      ∀ flag, next.values flag = given.values flag ++ valuesOf flag [s] := by
  obtain ⟨flag, value⟩ := s
  cases flag with
  | engine | node | logLevel =>
    have hnone := Option.toList_eq_nil_iff.mp (hroom rfl)
    refine ⟨_, if_neg (by simp [hnone]), fun flag => ?_⟩
    cases flag <;> simp [values, valuesOf, hnone]
  | moduleDir =>
    refine ⟨_, if_neg (hdir rfl), fun flag => ?_⟩
    cases flag <;> simp [values, valuesOf]
  | watch =>
    refine ⟨_, rfl, fun flag => ?_⟩
    cases flag <;> simp [values, valuesOf]

/-- A flag that is given once is refused the second time, whatever the value. -/
theorem take_of_given (given : Given) {flag : Flag} (value : String)
    (hflag : flag.repeats = false) (hgiven : given.values flag ≠ []) :
    given.take flag value = .error .argumentConflict := by
  have hsome {o : Option String} (ho : o.toList ≠ []) : o.isSome = true := by
    cases o <;> simp_all
  cases flag with
  | engine | node | logLevel => exact if_pos (hsome hgiven)
  | moduleDir | watch => cases hflag

/-- **Settings add their values, each under its own flag and in their order.** -/
theorem takeAll_of_room (given : Given) (settings : List Setting)
    (hroom : ∀ flag, flag.repeats = false →
      (given.values flag ++ valuesOf flag settings).length ≤ 1)
    (hdirs : "" ∉ valuesOf .moduleDir settings) :
    ∃ next, given.takeAll settings = .ok next ∧
      ∀ flag, next.values flag = given.values flag ++ valuesOf flag settings := by
  induction settings generalizing given with
  | nil => exact ⟨given, rfl, fun flag => by simp [valuesOf]⟩
  | cons s settings ih =>
    simp only [valuesOf_cons _ s settings] at hroom hdirs ⊢
    have hown : valuesOf s.flag [s] = [s.value] := by simp [valuesOf]
    -- there is room for one value under the flag, and it is the one of this setting
    have hfirst : s.flag.repeats = false → given.values s.flag = [] := by
      intro hflag
      have hlength := hroom s.flag hflag
      rw [hown] at hlength
      simp only [List.length_append, List.length_singleton] at hlength
      exact List.eq_nil_of_length_eq_zero (by omega)
    have hdir : s.flag = .moduleDir → s.value ≠ "" := by
      intro hflag hempty
      rw [← hflag, hown, hempty] at hdirs
      exact hdirs (by simp)
    obtain ⟨next, htake, hnext⟩ := given.values_of_take s hfirst hdir
    obtain ⟨last, hlast, hvalues⟩ := ih next
      (fun flag hflag => by simpa [hnext] using hroom flag hflag)
      (fun hempty => hdirs (List.mem_append_right _ hempty))
    refine ⟨last, ?_, fun flag => ?_⟩
    · show (given.take s.flag s.value).bind (fun given => given.takeAll settings) = .ok last
      rw [htake]
      exact hlast
    · rw [hvalues, hnext, List.append_assoc]

theorem values_nothing (flag : Flag) : nothing.values flag = [] := by
  cases flag <;> rfl

end Given

/-- What is taken in, in whatever order, is what was given. -/
theorem Shuffles.takeAll_eq {given : Given} {settings : List Setting}
    (h : Shuffles given.settings settings) (hdirs : "" ∉ given.moduleDirs) :
    Given.nothing.takeAll settings = .ok given := by
  have hroom : ∀ flag, flag.repeats = false →
      (Given.nothing.values flag ++ valuesOf flag settings).length ≤ 1 := by
    intro flag hflag
    obtain ⟨value, hvalue⟩ := given.exists_values_eq_toList hflag
    rw [Given.values_nothing, List.nil_append, h.valuesOf_eq, hvalue]
    exact Option.length_toList_le
  have hnames : "" ∉ valuesOf .moduleDir settings := by
    rw [h.valuesOf_eq]
    exact hdirs
  obtain ⟨last, hlast, hvalues⟩ := Given.nothing.takeAll_of_room settings hroom hnames
  have hsame : last = given := by
    refine Given.eq_of_values_eq fun flag => ?_
    rw [hvalues, Given.values_nothing, List.nil_append, h.valuesOf_eq]
  rw [hlast, hsame]

/-! ## Reading and writing -/

/-- Arguments are read by taking in the settings they were written for. -/
theorem Writes.parse_eq {settings : List Setting} {arguments : List String}
    (h : Writes settings arguments) :
    Arguments.parse arguments = (Given.nothing.takeAll settings).map Given.complete := by
  rw [Arguments.parse, h.read_eq]
  rfl

/-- **Values come back as they were written.**

Take any values, no directory of them empty, in any order that keeps directories and watched
names in theirs, each value attached to its flag or, where it does not start with a dash, in an
argument of its own.

* Reading accepts the arguments and yields these values, with the default for every flag that
  is not among them.
* A flag that is given once, and is among them, is refused when it is given again. -/
theorem parse_written (given : Given) (hdirs : "" ∉ given.moduleDirs) {settings : List Setting}
    (hshuffle : Shuffles given.settings settings) {arguments : List String}
    (hwrites : Writes settings arguments) :
    Arguments.parse arguments = .ok {
      engine := given.engine.getD "standard"
      node := given.node.getD "node"
      moduleDirs := given.moduleDirs.map Path.ofString
      watch := if given.watch = [] then ["package.json"] else given.watch
      logLevel := given.logLevel.getD "info" } ∧
    ∀ flag value, flag.repeats = false → flag ∈ settings.map Setting.flag →
      Arguments.parse (arguments ++ [Setting.attached ⟨flag, value⟩]) =
        .error .argumentConflict := by
  have htaken := hshuffle.takeAll_eq hdirs
  constructor
  · rw [hwrites.parse_eq, htaken]
    simp [Except.map, Given.complete]
  · intro flag value hflag hpresent
    have hgiven : given.values flag ≠ [] := by
      rw [← hshuffle.valuesOf_eq]
      exact valuesOf_ne_nil_iff.mpr hpresent
    have hagain : given.takeAll [⟨flag, value⟩] = .error .argumentConflict := by
      show (given.take flag value).bind (fun given => given.takeAll []) = _
      rw [given.take_of_given value hflag hgiven]
      rfl
    have hsecond := hwrites.append (.attached ⟨flag, value⟩ .nil)
    rw [hsecond.parse_eq, Given.takeAll_append, htaken]
    exact congrArg (Except.map Given.complete) hagain

namespace Sample

/-- Values that look like flags, or have an equals sign in them, or are empty. -/
def odd : Given := ⟨some "--node=x", some "a=b", ["/m", "-"], ["", "--"], none⟩

/-- The same values, shuffled. -/
def oddShuffled : List Setting :=
  [⟨.watch, ""⟩, ⟨.moduleDir, "/m"⟩, ⟨.node, "a=b"⟩, ⟨.watch, "--"⟩, ⟨.engine, "--node=x"⟩,
    ⟨.moduleDir, "-"⟩]

/-- The same values, written. -/
def oddWritten : List String :=
  ["--watch", "", "--module-dir=/m", "--node", "a=b", "--watch=--", "--engine=--node=x",
    "--module-dir=-"]

theorem odd_shuffles : Shuffles odd.settings oddShuffled where
  perm := by decide
  kept flag _ := by cases flag <;> rfl

theorem odd_writes : Writes oddShuffled oddWritten :=
  .apart ⟨.watch, ""⟩ (by decide) <| .attached ⟨.moduleDir, "/m"⟩ <|
    .apart ⟨.node, "a=b"⟩ (by decide) <| .attached ⟨.watch, "--"⟩ <|
    .attached ⟨.engine, "--node=x"⟩ <| .attached ⟨.moduleDir, "-"⟩ .nil

end Sample

/-- They come back, and the executable cannot be named twice. -/
theorem parse_written_odd :
    "" ∉ Sample.odd.moduleDirs ∧ Shuffles Sample.odd.settings Sample.oddShuffled ∧
      Writes Sample.oddShuffled Sample.oddWritten ∧
      Arguments.parse Sample.oddWritten =
        .ok ⟨"--node=x", "a=b", [.ofString "/m", .ofString "-"], ["", "--"], "info"⟩ ∧
      Arguments.parse (Sample.oddWritten ++ ["--node=a=b"]) = .error .argumentConflict := by
  have hdirs : "" ∉ Sample.odd.moduleDirs := by decide
  obtain ⟨hparse, hagain⟩ := parse_written Sample.odd hdirs Sample.odd_shuffles Sample.odd_writes
  exact ⟨hdirs, Sample.odd_shuffles, Sample.odd_writes, hparse,
    hagain .node "a=b" rfl (by decide)⟩

end LintServer.Launch
