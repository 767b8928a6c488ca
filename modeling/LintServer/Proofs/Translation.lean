import LintServer.Diagnostic
import Mathlib.Data.List.Forall2

/-! # What is read out of a report

A linter may answer with any JSON value, and every part of it may be missing or of
another type.  `Json.Lists` says where the findings of a report stand, if it has any, and
`Diagnostic.Depicts` what a diagnostic says about one finding.  `translate_exact` ties
`translate` to the two: the diagnostics are those of the objects among the findings, one
for each and in their order, and nothing else in the report has a part in it.
-/
namespace LintServer

namespace Json

/-- The value of a record's field: in an object it has its name, and in an array, which
is no longer than the record, its place. -/
inductive Holds (name : String) (place length : Nat) : Json → Json → Prop
  | byKey {members : List (String × Json)} {value : Json}
    (h : members.lookup name = some value) : Holds name place length (.object members) value
  | byPlace {items : List Json} {value : Json} (hlength : items.length ≤ length)
    (h : items[place]? = some value) : Holds name place length (.array items) value

/-- The findings a report lists: the messages of its first result. -/
def Lists (report : Json) (messages : List Json) : Prop :=
  ∃ document more, report.Holds "results" 2 3 (.array (document :: more)) ∧
    document.Holds "messages" 3 4 (.array messages)

theorem Holds.unique {name : String} {place length : Nat} {v a b : Json}
    (ha : v.Holds name place length a) (hb : v.Holds name place length b) : a = b := by
  cases ha with
  | byKey ha =>
    cases hb with
    | byKey hb => exact Option.some.inj (ha.symm.trans hb)
  | byPlace _ ha =>
    cases hb with
    | byPlace _ hb => exact Option.some.inj (ha.symm.trans hb)

end Json

/-! ## One finding -/

/-- The coordinate a diagnostic has for one that counts from one: one less, moved to the
nearer end of the range where it lies outside.  What is no integer of 64 bits, or is not
given at all, counts as the origin. -/
inductive Coordinate : Option Json → UInt32 → Prop
  | integer {n : Int} {u : UInt32} (hlow : -0x8000000000000000 ≤ n)
    (hhigh : n < 0x8000000000000000)
    (h : (u.toNat : Int) = max 0 (min (n - 1) 0xffffffff)) : Coordinate (some (.int n)) u
  | other {given : Option Json}
    (h : ∀ n : Int, -0x8000000000000000 ≤ n → n < 0x8000000000000000 →
      given ≠ some (.int n)) : Coordinate given 0

/-- **What a diagnostic says about a finding.**  It stands at one point, and is a warning
just if the finding's severity is the number one. -/
structure Diagnostic.Depicts (d : Diagnostic) (source : String) (finding : Json) : Prop where
  point : d.stop = d.start
  line : Coordinate (finding.member? "line") d.start.line
  character : Coordinate (finding.member? "column") d.start.character
  severity : d.severity = .warning ↔ finding.member? "severity" = some (.int 1)
  code : ∀ c, d.code = some c ↔ finding.member? "ruleId" = some (.string c)
  message : ∀ m, finding.member? "message" = some (.string m) → d.message = m
  noMessage : (∀ m, finding.member? "message" ≠ some (.string m)) → d.message = ""
  source : d.source = source

theorem Coordinate.unique {given : Option Json} {u w : UInt32} (hu : Coordinate given u)
    (hw : Coordinate given w) : u = w := by
  cases hu with
  | @integer n _ hlow hhigh hu =>
    generalize hgiven : some (Json.int n) = given at hw
    cases hw with
    | integer _ _ hw =>
      cases hgiven
      exact UInt32.toNat_inj.mp (Int.ofNat.inj (hu.trans hw.symm))
    | other hw => exact absurd hgiven.symm (hw n hlow hhigh)
  | other hu =>
    cases hw with
    | integer hlow hhigh _ => exact absurd rfl (hu _ hlow hhigh)
    | other _ => rfl

/-- The fields of a finding that a diagnostic shows. -/
def Problem.fields : List String := ["line", "column", "severity", "ruleId", "message"]

/-- A diagnostic is settled by the five fields of its finding. -/
theorem Diagnostic.Depicts.unique {d d' : Diagnostic} {source : String} {finding finding' : Json}
    (h : d.Depicts source finding) (h' : d'.Depicts source finding')
    (hsame : ∀ name ∈ Problem.fields, finding.member? name = finding'.member? name) : d = d' := by
  have hline := hsame "line" (by decide)
  have hcolumn := hsame "column" (by decide)
  have hseverity := hsame "severity" (by decide)
  have hcode := hsame "ruleId" (by decide)
  have hmessage := hsame "message" (by decide)
  have hstart : d.start = d'.start := by
    have hl := (hline ▸ h.line).unique h'.line
    have hc := (hcolumn ▸ h.character).unique h'.character
    calc d.start = ⟨d.start.line, d.start.character⟩ := rfl
      _ = ⟨d'.start.line, d'.start.character⟩ := by rw [hl, hc]
  have hsev : d.severity = d'.severity := by
    have hiff : d.severity = .warning ↔ d'.severity = .warning := by
      rw [h.severity, h'.severity, hseverity]
    cases hd : d.severity <;> cases hd' : d'.severity <;> simp [hd, hd'] at hiff <;> rfl
  have hcodes : d.code = d'.code := by
    refine Option.ext fun c => ?_
    rw [h.code, h'.code, hcode]
  have htext : d.message = d'.message := by
    by_cases hm : ∃ m, finding.member? "message" = some (.string m)
    · obtain ⟨m, hm⟩ := hm
      rw [h.message m hm, h'.message m (hmessage ▸ hm)]
    · have hnone : ∀ m, finding.member? "message" ≠ some (.string m) := fun m hm' => hm ⟨m, hm'⟩
      rw [h.noMessage hnone, h'.noMessage (hmessage ▸ hnone)]
  obtain ⟨start, stop, severity, code, from', message⟩ := d
  obtain ⟨start', stop', severity', code', from'', message'⟩ := d'
  cases h.point
  cases h'.point
  cases h.source
  cases h'.source
  cases hstart
  cases hsev
  cases hcodes
  cases htext
  rfl

/-! ## Coordinates -/

theorem toInt_lessOne (n : Int64) :
    (lessOne n).toInt = max (-0x8000000000000000) (n.toInt - 1) := by
  have hleast : Int64.minValue.toInt = -0x8000000000000000 := by decide
  have hlow := n.le_toInt
  have hhigh := n.toInt_lt
  unfold lessOne
  split
  · rename_i hmin
    rw [hmin, hleast]
    decide
  · rename_i hmin
    have hne : n.toInt ≠ -0x8000000000000000 := by
      rw [← hleast]
      exact fun h => hmin (Int64.toInt_inj.mp h)
    have hone : (1 : Int64).toInt = 1 := by decide
    rw [Int64.toInt_sub, hone, Int.bmod_eq_of_le (by omega) (by omega)]
    omega

theorem toInt_min (a b : Int64) : (min a b).toInt = min a.toInt b.toInt := by
  change (if a ≤ b then a else b).toInt = _
  simp only [Int64.le_iff_toInt_le, apply_ite Int64.toInt]
  omega

theorem toInt_max (a b : Int64) : (max a b).toInt = max a.toInt b.toInt := by
  change (if a ≤ b then b else a).toInt = _
  simp only [Int64.le_iff_toInt_le, apply_ite Int64.toInt]
  omega

/-- The number, moved into the range of a position's words. -/
def moved (n : Int64) : Int64 := max 0 (min n 4294967295)

theorem toInt_moved (n : Int64) : (moved n).toInt = max 0 (min n.toInt 0xffffffff) := by
  have hzero : (0 : Int64).toInt = 0 := by decide
  have hlimit : (4294967295 : Int64).toInt = 4294967295 := by decide
  rw [moved, toInt_max, toInt_min, hzero, hlimit]

/-- A number that was moved fits the narrower words. -/
theorem toNat_toUInt32_moved (n : Int64) :
    ((moved n).toUInt64.toUInt32.toNat : Int) = (moved n).toInt := by
  have hvalue := toInt_moved n
  have hnonneg : 0 ≤ moved n := by
    have hzero : (0 : Int64).toInt = 0 := by decide
    rw [Int64.le_iff_toInt_le, hzero]
    omega
  rw [UInt64.toNat_toUInt32, Int64.toNat_toUInt64_of_le hnonneg, ← Int64.toNat_toInt]
  omega

/-- The coordinate is one less, moved into the range of the protocol. -/
theorem toNat_zeroBased (n : Int64) :
    ((zeroBased (some n)).toNat : Int) = max 0 (min (n.toInt - 1) 0xffffffff) := by
  show ((moved (lessOne n)).toUInt64.toUInt32.toNat : Int) = _
  rw [toNat_toUInt32_moved, toInt_moved, toInt_lessOne]
  omega

theorem zeroBased_none : zeroBased none = 0 := by decide

theorem coordinate_zeroBased (given : Option Json) :
    Coordinate given (zeroBased (given.bind Json.int64?)) := by
  have hother (h : given.bind Json.int64? = none) :
      Coordinate given (zeroBased (given.bind Json.int64?)) := by
    rw [h, zeroBased_none]
    refine .other ?_
    rintro n hlow hhigh rfl
    simp [Json.int, Json.int64?] at h
    omega
  by_cases hint : ∃ n : Int, given = some (.int n) ∧ -0x8000000000000000 ≤ n ∧
      n < 0x8000000000000000
  · obtain ⟨n, rfl, hlow, hhigh⟩ := hint
    have hread : (some (Json.int n)).bind Json.int64? = some (Int64.ofInt n) := by
      simp [Json.int, Json.int64?]
      omega
    rw [hread]
    refine .integer hlow hhigh ?_
    rw [toNat_zeroBased, Int64.toInt_ofInt_of_le hlow hhigh]
  · refine hother ?_
    match given with
    | none => rfl
    | some (.number (.integer n)) =>
      have hout : ¬ (-0x8000000000000000 ≤ n ∧ n < 0x8000000000000000) := fun h => hint ⟨n, rfl, h⟩
      simp [Json.int64?]
      omega
    | some .null | some (.bool _) | some (.number (.real _)) | some (.string _) | some (.array _)
    | some (.object _) => rfl

/-! ## Whole reports -/

theorem bind_int64?_eq_one {given : Option Json} :
    given.bind Json.int64? = some 1 ↔ given = some (.int 1) := by
  constructor
  · intro h
    obtain ⟨v, hv, hone⟩ := Option.bind_eq_some_iff.mp h
    match v with
    | .number (.integer n) =>
      simp only [Json.int64?, Option.ite_none_right_eq_some, Option.some.injEq] at hone
      obtain ⟨⟨hlow, hhigh⟩, hword⟩ := hone
      have hn : n = 1 := by
        rw [← Int64.toInt_ofInt_of_le hlow hhigh, hword]
        decide
      rw [hv, hn]
      rfl
    | .null | .bool _ | .number (.real _) | .string _ | .array _ | .object _ => cases hone
  · rintro rfl
    rfl

theorem bind_string?_eq_some {given : Option Json} {s : String} :
    given.bind Json.string? = some s ↔ given = some (.string s) := by
  constructor
  · intro h
    obtain ⟨v, hv, hs⟩ := Option.bind_eq_some_iff.mp h
    cases v <;> cases hs
    exact hv
  · rintro rfl
    rfl

/-- The diagnostic of a problem says what the finding says. -/
theorem depicts_diagnostic {finding : Json} {problem : Problem} (source : String)
    (h : Problem.ofJson? finding = some problem) :
    (problem.diagnostic source).Depicts source finding := by
  cases finding with
  | object members =>
    cases h
    refine ⟨rfl, coordinate_zeroBased _, coordinate_zeroBased _, ?_, ?_, ?_, ?_, rfl⟩
    · simp only [Problem.diagnostic, Severity.ofCode, Json.member?, ← bind_int64?_eq_one]
      split <;> simp_all
    · intro c
      exact bind_string?_eq_some
    · intro m hm
      have hread := bind_string?_eq_some.mpr hm
      simp only [Json.member?] at hread
      simp only [Problem.diagnostic, hread, Option.getD_some]
    · intro hnone
      have hread : (members.lookup "message").bind Json.string? = none := by
        refine Option.eq_none_iff_forall_ne_some.mpr fun m hm => ?_
        exact hnone m (bind_string?_eq_some.mp hm)
      simp only [Problem.diagnostic, hread, Option.getD_none]
  | _ => cases h

/-- Objects are problems, whatever is in them, and nothing else is one. -/
theorem isSome_ofJson? (finding : Json) : (Problem.ofJson? finding).isSome = finding.isObject := by
  cases finding <;> rfl

/-- One diagnostic for each object among the findings, in their order. -/
theorem depicts_problems (messages : List Json) (source : String) :
    List.Forall₂ (fun finding d => Diagnostic.Depicts d source finding)
      (messages.filter Json.isObject)
      ((messages.filterMap Problem.ofJson?).map fun p => p.diagnostic source) := by
  induction messages with
  | nil => exact .nil
  | cons finding more ih =>
    cases hproblem : Problem.ofJson? finding with
    | none =>
      have hno : finding.isObject = false := by rw [← isSome_ofJson?, hproblem]; rfl
      rw [List.filterMap_cons_none hproblem, List.filter_cons_of_neg (by simp [hno])]
      exact ih
    | some problem =>
      have hobject : finding.isObject = true := by rw [← isSome_ofJson?, hproblem]; rfl
      rw [List.filterMap_cons_some hproblem, List.filter_cons_of_pos hobject]
      exact .cons (depicts_diagnostic source hproblem) ih

namespace Json

theorem bind_items?_eq_some {given : Option Json} {items : List Json} :
    given.bind items? = some items ↔ given = some (.array items) := by
  constructor
  · intro h
    obtain ⟨v, hv, hitems⟩ := Option.bind_eq_some_iff.mp h
    cases v <;> cases hitems
    exact hv
  · rintro rfl
    rfl

/-- A record has a slot for each of its fields. -/
theorem length_slots {names : List String} {v : Json} {fields : List (Option Json)}
    (h : v.slots names = some fields) : fields.length = names.length := by
  cases v with
  | object members => cases h; simp
  | array items =>
    simp only [slots, Option.ite_none_right_eq_some] at h
    obtain ⟨_, h⟩ := h
    cases h
    simp
  | _ => cases h

/-- What stands in the slot of a field is what the field holds. -/
theorem holds_iff (names : List String) {place length : Nat} {name : String} {v value : Json}
    (hname : names[place]? = some name) (hlength : names.length = length) :
    v.Holds name place length value ↔
      ∃ fields, v.slots names = some fields ∧ fields[place]? = some (some value) := by
  subst hlength
  have hplace : place < names.length := (List.getElem?_eq_some_iff.mp hname).1
  constructor
  · intro h
    cases h with
    | byKey h => exact ⟨_, rfl, by simp [hname, h]⟩
    | byPlace hlength h =>
      refine ⟨_, if_pos hlength, ?_⟩
      simp [hplace, h]
  · rintro ⟨fields, hfields, hvalue⟩
    cases v with
    | object members =>
      cases hfields
      simp only [List.getElem?_map, hname, Option.map_some, Option.some.injEq] at hvalue
      exact .byKey hvalue
    | array items =>
      simp only [slots, Option.ite_none_right_eq_some] at hfields
      obtain ⟨hlength, hfields⟩ := hfields
      cases hfields
      simp only [List.getElem?_map, List.getElem?_range hplace, Option.map_some,
        Option.some.injEq] at hvalue
      exact .byPlace hlength hvalue
    | _ => cases hfields

end Json

theorem results_ofJson {v : Json} {items : List Json} :
    (Report.ofJson v).results = some items ↔ v.Holds "results" 2 3 (.array items) := by
  refine Iff.trans ?_ (Json.holds_iff ["errorCount", "warningCount", "results"] rfl rfl).symm
  unfold Report.ofJson
  cases hslots : v.slots ["errorCount", "warningCount", "results"] with
  | none => simp [Report.empty]
  | some fields =>
    obtain ⟨a, b, c, rfl⟩ := List.length_eq_three.mp (Json.length_slots hslots)
    simp [Json.bind_items?_eq_some]

theorem messages_ofJson? {v : Json} {items : List Json} :
    (∃ d, DocumentReport.ofJson? v = some d ∧ d.messages = some items) ↔
      v.Holds "messages" 3 4 (.array items) := by
  refine Iff.trans ?_
    (Json.holds_iff ["filePath", "errorCount", "warningCount", "messages"] rfl rfl).symm
  unfold DocumentReport.ofJson?
  cases hslots : v.slots ["filePath", "errorCount", "warningCount", "messages"] with
  | none => simp
  | some fields =>
    have hlength := Json.length_slots hslots
    match fields, hlength with
    | [a, b, c, d], _ => simp [Json.bind_items?_eq_some]

/-- The report on the linted document lists what the whole report lists. -/
theorem lists_iff {v : Json} {messages : List Json} :
    v.Lists messages ↔ ∃ d, (Report.ofJson v).document? = some d ∧ d.messages = some messages := by
  constructor
  · rintro ⟨document, more, hresults, hmessages⟩
    obtain ⟨d, hd, hlist⟩ := messages_ofJson?.mpr hmessages
    refine ⟨d, ?_, hlist⟩
    simp [Report.document?, results_ofJson.mpr hresults, hd]
  · rintro ⟨d, hd, hlist⟩
    obtain ⟨document, hfirst, hread⟩ := Option.bind_eq_some_iff.mp hd
    obtain ⟨results, hresults, hhead⟩ := Option.bind_eq_some_iff.mp hfirst
    cases results with
    | nil => cases hhead
    | cons _ more =>
      cases hhead
      exact ⟨document, more, results_ofJson.mp hresults, messages_ofJson?.mp ⟨d, hread, hlist⟩⟩

theorem translate_of_lists {v : Json} {messages : List Json} (source : String)
    (h : v.Lists messages) : translate (some v) source =
      (messages.filterMap Problem.ofJson?).map fun p => p.diagnostic source := by
  obtain ⟨d, hd, hlist⟩ := lists_iff.mp h
  simp [translate, hd, DocumentReport.problems, hlist]

theorem translate_of_not_lists {v : Json} (source : String) (h : ∀ messages, ¬ v.Lists messages) :
    translate (some v) source = [] := by
  unfold translate
  split
  · rfl
  · rename_i d hd
    cases hlist : d.messages with
    | none => simp [DocumentReport.problems, hlist]
    | some messages => exact absurd (lists_iff.mpr ⟨d, hd, hlist⟩) (h messages)

/-- **The diagnostics for a linter's answer, whatever it is.**

* If the answer lists findings, there is one diagnostic for each object among them, in
  their order, and it says what that finding says.
* If it lists none, since some part is missing or of another type, there are no
  diagnostics.
* Nothing else has a part in it: answers with the same objects among their findings, as
  far as the five fields go, have the same diagnostics. -/
theorem translate_exact (v : Json) (source : String) :
    (∀ messages, v.Lists messages →
      List.Forall₂ (fun finding d => Diagnostic.Depicts d source finding)
        (messages.filter Json.isObject) (translate (some v) source)) ∧
    ((∀ messages, ¬ v.Lists messages) → translate (some v) source = []) ∧
    ∀ v' messages messages', v.Lists messages → v'.Lists messages' →
      List.Forall₂ (fun finding finding' => ∀ name ∈ Problem.fields,
          finding.member? name = finding'.member? name)
        (messages.filter Json.isObject) (messages'.filter Json.isObject) →
      translate (some v) source = translate (some v') source := by
  have hexact {v : Json} {messages : List Json} (h : v.Lists messages) :
      List.Forall₂ (fun finding d => Diagnostic.Depicts d source finding)
        (messages.filter Json.isObject) (translate (some v) source) := by
    rw [translate_of_lists source h]
    exact depicts_problems messages source
  refine ⟨fun messages => hexact, translate_of_not_lists source, ?_⟩
  intro v' messages messages' h h' hsame
  have hd := hexact h
  have hd' := hexact h'
  generalize messages.filter Json.isObject = findings at hd hsame
  generalize messages'.filter Json.isObject = findings' at hd' hsame
  generalize translate (some v) source = ds at hd ⊢
  generalize translate (some v') source = ds' at hd' ⊢
  induction hsame generalizing ds ds' with
  | nil =>
    cases hd
    cases hd'
    rfl
  | cons hfields _ ih =>
    cases hd with
    | cons hfirst hmore =>
      cases hd' with
      | cons hfirst' hmore' => rw [hfirst.unique hfirst' hfields, ih _ hmore _ hmore']

/-! ### A report with faults

It is written by place.  Its counts are no numbers, its first result names no file, and
among the findings stand a null and a number. -/

namespace Sample

/-- A finding of which line and code are of the wrong type. -/
def crooked : Json :=
  .object [("column", .int 7), ("line", .string "3"), ("ruleId", .int 4), ("severity", .int 1)]

/-- The report. -/
def faulty : Json :=
  .array [.null, .string "two",
    .array [.object [("filePath", .int 0),
        ("messages", .array [.null, crooked, .int 5, .object []])],
      .object [("messages", .array [crooked])]]]

theorem faulty_lists : faulty.Lists [.null, crooked, .int 5, .object []] :=
  ⟨_, _, .byPlace (by decide) rfl, .byKey rfl⟩

end Sample

/-- Two diagnostics come of it, the first of them a warning at the seventh column. -/
theorem translate_exact_faulty :
    Sample.faulty.Lists [.null, Sample.crooked, .int 5, .object []] ∧
    ∃ d d', translate (some Sample.faulty) "standard" = [d, d'] ∧
      d.Depicts "standard" Sample.crooked ∧ d.severity = .warning ∧
      d'.Depicts "standard" (.object []) := by
  refine ⟨Sample.faulty_lists, ?_⟩
  have h := (translate_exact Sample.faulty "standard").1 _ Sample.faulty_lists
  obtain ⟨d, ds, hd, hds, heq⟩ := List.forall₂_cons_left_iff.mp h
  obtain ⟨d', ds', hd', hds', rfl⟩ := List.forall₂_cons_left_iff.mp hds
  cases hds'
  exact ⟨d, d', heq, hd, hd.severity.mpr rfl, hd'⟩

end LintServer
