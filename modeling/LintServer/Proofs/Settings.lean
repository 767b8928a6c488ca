import LintServer.Proofs.Translation
import LintServer.Settings
import Mathlib.Algebra.Group.Nat.Defs
import Mathlib.Data.List.Induction

/-! # Settings after a history of pushes

The editor may push any JSON value.  `Json.HasSection` says where the section of a push
stands, if it has one, and `Settings.Obey` what settings come of it: the two fields of the
section are read each for itself, and a field of another type counts as none.

`settings_of_pushes` is about a whole history.  Every push is a new generation, and apart
from that only the last push with a section has a say: nothing of the sections before it is
left, and pushes without a section leave the settings alone.
-/
namespace LintServer

namespace Json

/-- A record of at most so many fields, by name or by place. -/
def IsRecord (length : Nat) : Json → Prop
  | .object _ => True
  | .array items => items.length ≤ length
  | _ => False

/-- **The section of a push**: it is the field `standard` of the push, and a record of two
fields. -/
def HasSection (push standard : Json) : Prop :=
  push.Holds "standard" 0 1 standard ∧ standard.IsRecord 2

theorem exists_slots_iff (names : List String) {v : Json} :
    (∃ fields, v.slots names = some fields) ↔ v.IsRecord names.length := by
  cases v with
  | object members => exact iff_of_true ⟨_, rfl⟩ trivial
  | array items => simp [slots, IsRecord]
  | _ => exact iff_of_false (by rintro ⟨_, ⟨⟩⟩) id

end Json

theorem bind_bool?_eq_some {given : Option Json} {b : Bool} :
    given.bind Json.bool? = some b ↔ given = some (.bool b) := by
  constructor
  · intro h
    obtain ⟨v, hv, hb⟩ := Option.bind_eq_some_iff.mp h
    cases v <;> cases hb
    exact hv
  · rintro rfl
    rfl

namespace Settings

/-! ## One section -/

/-- What was read of a section is what its two fields hold. -/
structure Section.Reads (s : Section) (standard : Json) : Prop where
  enable : ∀ b, s.enable = some b ↔ standard.Holds "enable" 0 2 (.bool b)
  options : ∀ v, s.options = some v ↔ standard.Holds "options" 1 2 v

/-- **The settings are those of a section**: validation is on unless the section holds a
truth value that says otherwise, and the options are the section's, an empty object
standing for none and for null. -/
structure Obey (settings : Settings) (standard : Json) : Prop where
  enabled : ∀ b, standard.Holds "enable" 0 2 (.bool b) → settings.enabled = b
  enabledUnlessSaid : (∀ b, ¬ standard.Holds "enable" 0 2 (.bool b)) → settings.enabled = true
  options : ∀ v, standard.Holds "options" 1 2 v → v ≠ .null → settings.options = v
  optionsUnlessSaid : (∀ v, standard.Holds "options" 1 2 v → v = .null) →
    settings.options = .empty

/-- A record of two fields is read as a section, and nothing else is. -/
theorem Section.reads_of_isRecord {standard : Json} (h : standard.IsRecord 2) :
    ∃ s, Section.ofJson? standard = some s ∧ s.Reads standard := by
  obtain ⟨fields, hslots⟩ := (Json.exists_slots_iff ["enable", "options"]).mpr h
  obtain ⟨enable, options, rfl⟩ := List.length_eq_two.mp (Json.length_slots hslots)
  have hfield {name : String} {place : Nat} (hname : ["enable", "options"][place]? = some name)
      (v : Json) : standard.Holds name place 2 v ↔ [enable, options][place]? = some (some v) := by
    refine (Json.holds_iff ["enable", "options"] hname rfl).trans ?_
    rw [hslots]
    simp
  refine ⟨⟨enable.bind Json.bool?, options⟩, by rw [Section.ofJson?, hslots], ?_, ?_⟩
  · intro b
    rw [bind_bool?_eq_some, hfield rfl]
    simp
  · intro v
    rw [hfield rfl]
    simp

theorem Section.ofJson?_eq_none {standard : Json} (h : ¬ standard.IsRecord 2) :
    Section.ofJson? standard = none := by
  have hslots : standard.slots ["enable", "options"] = none := by
    refine Option.eq_none_iff_forall_ne_some.mpr fun fields hfields => h ?_
    exact (Json.exists_slots_iff ["enable", "options"]).mp ⟨fields, hfields⟩
  rw [Section.ofJson?, hslots]

theorem section?_of_holds {push standard : Json} (h : push.Holds "standard" 0 1 standard) :
    Settings.section? push = Section.ofJson? standard := by
  obtain ⟨fields, hslots, hfield⟩ := (Json.holds_iff ["standard"] rfl rfl).mp h
  obtain ⟨field, rfl⟩ := List.length_eq_one_iff.mp (Json.length_slots hslots)
  cases hfield
  simp only [section?, hslots]

/-- The section of a push is read. -/
theorem section?_of_hasSection {push standard : Json} (h : push.HasSection standard) :
    ∃ s, section? push = some s ∧ s.Reads standard := by
  rw [section?_of_holds h.1]
  exact Section.reads_of_isRecord h.2

/-- There is nothing to read in a push without a section. -/
theorem section?_eq_none {push : Json} (h : ∀ standard, ¬ push.HasSection standard) :
    Settings.section? push = none := by
  by_cases hfield : ∃ standard, push.Holds "standard" 0 1 standard
  · obtain ⟨standard, hstandard⟩ := hfield
    rw [section?_of_holds hstandard]
    exact Section.ofJson?_eq_none fun hrecord => h standard ⟨hstandard, hrecord⟩
  · have hnone (v : Json) : push.slots ["standard"] ≠ some [some v] := by
      intro hslots
      exact hfield ⟨v, (Json.holds_iff ["standard"] rfl rfl).mpr ⟨_, hslots, rfl⟩⟩
    unfold section?
    split
    · exact absurd ‹_› (hnone _)
    · rfl

/-- What was read of a section is obeyed. -/
theorem Section.Reads.obey {s : Section} {standard : Json} (h : s.Reads standard)
    (generation : UInt64) : Settings.Obey ⟨s.enabled, s.effective, generation⟩ standard where
  enabled b hb := by
    simp only [Section.enabled, (h.enable b).mpr hb, Option.getD_some]
  enabledUnlessSaid hnone := by
    have henable : s.enable = none :=
      Option.eq_none_iff_forall_ne_some.mpr fun b hb => hnone b ((h.enable b).mp hb)
    simp only [Section.enabled, henable, Option.getD_none]
  options v hv hnull := by
    simp only [Section.effective, (h.options v).mpr hv]
  optionsUnlessSaid hnone := by
    cases hoptions : s.options with
    | none => simp only [Section.effective, hoptions]
    | some v =>
      cases hnone v ((h.options v).mp hoptions)
      simp only [Section.effective, hoptions]

/-- Settings that obey a section are never without options. -/
theorem Obey.options_ne_null {settings : Settings} {standard : Json} (h : settings.Obey standard) :
    settings.options ≠ .null := by
  by_cases hsaid : ∃ v, standard.Holds "options" 1 2 v ∧ v ≠ .null
  · obtain ⟨v, hv, hnull⟩ := hsaid
    rw [h.options v hv hnull]
    exact hnull
  · rw [h.optionsUnlessSaid fun v hv => by_contra fun hnull => hsaid ⟨v, hv, hnull⟩]
    exact nofun

/-- The options come of the options of a section alone, whatever else it says. -/
theorem Obey.options_eq {settings settings' : Settings} {standard standard' : Json}
    (h : settings.Obey standard) (h' : settings'.Obey standard')
    (hsame : ∀ v, standard.Holds "options" 1 2 v ↔ standard'.Holds "options" 1 2 v) :
    settings.options = settings'.options := by
  by_cases hsaid : ∃ v, standard.Holds "options" 1 2 v ∧ v ≠ .null
  · obtain ⟨v, hv, hnull⟩ := hsaid
    rw [h.options v hv hnull, h'.options v ((hsame v).mp hv) hnull]
  · have hnone (v : Json) (hv : standard.Holds "options" 1 2 v) : v = .null :=
      by_contra fun hnull => hsaid ⟨v, hv, hnull⟩
    rw [h.optionsUnlessSaid hnone,
      h'.optionsUnlessSaid fun v hv => hnone v ((hsame v).mpr hv)]

/-- Whether validation is on comes of the truth value in a section alone. -/
theorem Obey.enabled_eq {settings settings' : Settings} {standard standard' : Json}
    (h : settings.Obey standard) (h' : settings'.Obey standard')
    (hsame : ∀ b, standard.Holds "enable" 0 2 (.bool b) ↔
      standard'.Holds "enable" 0 2 (.bool b)) : settings.enabled = settings'.enabled := by
  by_cases hsaid : ∃ b, standard.Holds "enable" 0 2 (.bool b)
  · obtain ⟨b, hb⟩ := hsaid
    rw [h.enabled b hb, h'.enabled b ((hsame b).mp hb)]
  · have hnone (b : Bool) (hb : standard.Holds "enable" 0 2 (.bool b)) : False := hsaid ⟨b, hb⟩
    rw [h.enabledUnlessSaid hnone,
      h'.enabledUnlessSaid fun b hb => hnone b ((hsame b).mpr hb)]

/-! ## One push -/

@[simp] theorem generation_apply (settings : Settings) (push : Json) :
    (settings.apply push).generation = settings.generation + 1 := by
  unfold Settings.apply
  dsimp only
  split <;> rfl

/-- A push with a section replaces the settings. -/
theorem obey_apply {push standard : Json} (h : push.HasSection standard) (settings : Settings) :
    (settings.apply push).Obey standard := by
  obtain ⟨s, hsection, hreads⟩ := section?_of_hasSection h
  simp only [Settings.apply, hsection]
  exact hreads.obey _

/-- A push without a section is a new generation and nothing more. -/
theorem apply_of_no_section {push : Json} (h : ∀ standard, ¬ push.HasSection standard)
    (settings : Settings) :
    settings.apply push = { settings with generation := settings.generation + 1 } := by
  simp only [Settings.apply, section?_eq_none h]

/-! ## A history of pushes -/

/-- **The settings after some pushes**, in their order. -/
def after (pushes : List Json) : Settings := pushes.foldl Settings.apply .default

/-- `standard` is the section of the last push that has one. -/
def LastSection (pushes : List Json) (standard : Json) : Prop :=
  ∃ before push later, pushes = before ++ push :: later ∧ push.HasSection standard ∧
    ∀ p ∈ later, ∀ other, ¬ p.HasSection other

theorem after_concat (pushes : List Json) (push : Json) :
    after (pushes ++ [push]) = (after pushes).apply push :=
  List.foldl_concat ..

theorem generation_after (pushes : List Json) :
    (after pushes).generation = UInt64.ofNat pushes.length := by
  induction pushes using List.reverseRecOn with
  | nil => rfl
  | append_singleton pushes push ih =>
    rw [after_concat, generation_apply, ih, List.length_append, List.length_singleton,
      UInt64.ofNat_add]
    rfl

theorem toNat_generation_after {pushes : List Json} (h : pushes.length < 2 ^ 64) :
    (after pushes).generation.toNat = pushes.length := by
  rw [generation_after]
  exact UInt64.toNat_ofNat_of_lt' h

/-- Pushes without a section leave all but the generation alone. -/
theorem foldl_apply_of_no_section {later : List Json}
    (h : ∀ p ∈ later, ∀ standard, ¬ p.HasSection standard) (settings : Settings) :
    (later.foldl Settings.apply settings).enabled = settings.enabled ∧
      (later.foldl Settings.apply settings).options = settings.options := by
  induction later generalizing settings with
  | nil => exact ⟨rfl, rfl⟩
  | cons push later ih =>
    rw [List.forall_mem_cons] at h
    rw [List.foldl_cons, apply_of_no_section h.1]
    exact ih h.2 _

/-- The settings obey the last section. -/
theorem LastSection.obey {pushes : List Json} {standard : Json}
    (h : LastSection pushes standard) : (after pushes).Obey standard := by
  obtain ⟨before, push, later, rfl, hsection, hlater⟩ := h
  have hpushed := obey_apply hsection (after before)
  obtain ⟨henabled, hoptions⟩ := foldl_apply_of_no_section hlater ((after before).apply push)
  have hafter : after (before ++ push :: later) =
      later.foldl Settings.apply ((after before).apply push) := by
    rw [after, List.foldl_append, List.foldl_cons]
    rfl
  rw [hafter]
  exact ⟨fun b hb => henabled.trans (hpushed.enabled b hb),
    fun hnone => henabled.trans (hpushed.enabledUnlessSaid hnone),
    fun v hv hnull => hoptions.trans (hpushed.options v hv hnull),
    fun hnone => hoptions.trans (hpushed.optionsUnlessSaid hnone)⟩

/-- Some push is the last one with a section, or none has one. -/
theorem lastSection_or_none (pushes : List Json) :
    (∃ standard, LastSection pushes standard) ∨
      ∀ p ∈ pushes, ∀ standard, ¬ p.HasSection standard := by
  induction pushes using List.reverseRecOn with
  | nil => exact Or.inr nofun
  | append_singleton pushes push ih =>
    by_cases hpush : ∃ standard, push.HasSection standard
    · obtain ⟨standard, hsection⟩ := hpush
      exact Or.inl ⟨standard, pushes, push, [], rfl, hsection, nofun⟩
    · have hnone (standard : Json) : ¬ push.HasSection standard := fun h => hpush ⟨standard, h⟩
      rcases ih with ⟨standard, before, last, later, rfl, hsection, hlater⟩ | hall
      · refine Or.inl ⟨standard, before, last, later ++ [push], by simp, hsection, ?_⟩
        exact List.forall_mem_append.mpr ⟨hlater, List.forall_mem_singleton.mpr hnone⟩
      · exact Or.inr (List.forall_mem_append.mpr ⟨hall, List.forall_mem_singleton.mpr hnone⟩)

end Settings

/-- **Settings after any history of pushes.**

* The generation is the number of pushes, while that is less than 2⁶⁴, and each push makes
  it greater.
* The settings obey the section of the last push that has one, and without any they are
  the settings of a new server.  The options are never null.
* Two histories whose last sections hold the same options lead to the same options,
  whatever else was pushed, and likewise for whether validation is on. -/
theorem settings_of_pushes (pushes : List Json) :
    (pushes.length < 2 ^ 64 → (Settings.after pushes).generation.toNat = pushes.length) ∧
    (∀ push, pushes.length + 1 < 2 ^ 64 →
      (Settings.after pushes).generation < (Settings.after (pushes ++ [push])).generation) ∧
    (∀ standard, Settings.LastSection pushes standard → (Settings.after pushes).Obey standard) ∧
    ((∀ p ∈ pushes, ∀ standard, ¬ p.HasSection standard) →
      (Settings.after pushes).enabled = true ∧ (Settings.after pushes).options = .empty) ∧
    (Settings.after pushes).options ≠ .null ∧
    ∀ standard, Settings.LastSection pushes standard →
      ∀ others standard', Settings.LastSection others standard' →
      ((∀ v, standard.Holds "options" 1 2 v ↔ standard'.Holds "options" 1 2 v) →
        (Settings.after pushes).options = (Settings.after others).options) ∧
      ((∀ b, standard.Holds "enable" 0 2 (.bool b) ↔ standard'.Holds "enable" 0 2 (.bool b)) →
        (Settings.after pushes).enabled = (Settings.after others).enabled) := by
  have hdefault (h : ∀ p ∈ pushes, ∀ standard, ¬ p.HasSection standard) :
      (Settings.after pushes).enabled = true ∧ (Settings.after pushes).options = .empty :=
    Settings.foldl_apply_of_no_section h .default
  refine ⟨Settings.toNat_generation_after, ?_, fun standard h => h.obey, hdefault, ?_, ?_⟩
  · intro push hlength
    have hmore : (pushes ++ [push]).length = pushes.length + 1 := List.length_append
    rw [UInt64.lt_iff_toNat_lt, Settings.toNat_generation_after (by omega),
      Settings.toNat_generation_after (by omega), hmore]
    exact Nat.lt_succ_self _
  · rcases Settings.lastSection_or_none pushes with ⟨standard, hlast⟩ | hnone
    · exact hlast.obey.options_ne_null
    · rw [(hdefault hnone).2]
      exact nofun
  · intro standard hlast others standard' hlast'
    exact ⟨hlast.obey.options_eq hlast'.obey, hlast.obey.enabled_eq hlast'.obey⟩

namespace Sample

/-- The last section of these pushes has no truth value, and another one stood before it. -/
def pushed : List Json :=
  [.object [("standard", .array [.bool false, .object [("fix", .bool true)]])],
    .object [("standard", .object [("enable", .string "yes"), ("options", .int 5)])],
    .object [("eslint", .object [("enable", .bool false)])], .object [("standard", .null)]]

end Sample

/-- Nothing is left of the section before, and what follows has none. -/
theorem settings_of_pushes_mixed :
    (Settings.after Sample.pushed).generation.toNat = 4 ∧
      (Settings.after Sample.pushed).enabled = true ∧
      (Settings.after Sample.pushed).options = .int 5 := by
  have hlast : Settings.LastSection Sample.pushed
      (.object [("enable", .string "yes"), ("options", .int 5)]) := by
    refine ⟨[_], _, [_, _], rfl, ⟨.byKey rfl, trivial⟩, ?_⟩
    intro p hp standard hsection
    rcases List.mem_pair.mp hp with rfl | rfl
    · cases hsection.1 with
      | byKey h => cases h
    · cases hsection.1 with
      | byKey h =>
        cases h
        exact hsection.2
  obtain ⟨hgeneration, _, hobey, _⟩ := settings_of_pushes Sample.pushed
  refine ⟨hgeneration (by decide), (hobey _ hlast).enabledUnlessSaid ?_,
    (hobey _ hlast).options _ (.byKey rfl) nofun⟩
  intro b hb
  cases hb with
  | byKey h => cases h

end LintServer
