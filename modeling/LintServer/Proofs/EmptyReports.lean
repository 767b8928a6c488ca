import LintServer.Proofs.Translation

/-! # Reports that say nothing

A report is meant to be an object, and so is the report on one document.  The records they
are read as take an array too, field by field in its places, so that some values that are
no objects do say something.  `silent_iff` says which: an array of at most three items that
has a count or a list where the record has one, and, for diagnostics to come of it, an
array of exactly three items the last of which lists a document with findings.  The same
holds one level down, where the array has exactly four items.
-/
namespace LintServer

/-- A number that can be the count of something: a natural number of 64 bits. -/
def Json.IsCount (v : Json) : Prop := ∃ n : Nat, n < 0x10000000000000000 ∧ v = .nat n

theorem word64?_eq_none_iff {v : Json} : v.word64? = none ↔ ¬ v.IsCount := by
  match v with
  | .number (.integer n) =>
    have hcount : (Json.number (.integer n)).IsCount ↔ 0 ≤ n ∧ n < 0x10000000000000000 := by
      constructor
      · rintro ⟨m, hm, heq⟩
        cases heq
        omega
      · intro hin
        refine ⟨n.toNat, by omega, ?_⟩
        simp only [Json.nat, Json.int, Int.toNat_of_nonneg hin.1]
    rw [hcount]
    by_cases hin : 0 ≤ n ∧ n < 0x10000000000000000 <;> simp [Json.word64?, hin]
  | .null | .bool _ | .number (.real _) | .string _ | .array _ | .object _ =>
    refine iff_of_true rfl ?_
    rintro ⟨n, _, heq⟩
    cases heq

theorem bind_word64?_eq_none {given : Option Json} :
    given.bind Json.word64? = none ↔ ∀ v, given = some v → ¬ v.IsCount := by
  simp only [Option.bind_eq_none_iff, word64?_eq_none_iff]

theorem bind_items?_eq_none {given : Option Json} :
    given.bind Json.items? = none ↔ ∀ list, given ≠ some (.array list) := by
  refine Option.eq_none_iff_forall_ne_some.trans (forall_congr' fun list => ?_)
  exact not_congr Json.bind_items?_eq_some

/-- A report written by place is empty just if its counts are no counts and its results no
list. -/
theorem ofJson_array_eq_empty_iff {items : List Json} (hlength : items.length ≤ 3) :
    Report.ofJson (.array items) = .empty ↔
      (∀ place < 2, ∀ v, items[place]? = some v → ¬ v.IsCount) ∧
      ∀ list, items[2]? ≠ some (.array list) := by
  have hread : Report.ofJson (.array items) = ⟨(items[0]?).bind Json.word64?,
      (items[1]?).bind Json.word64?, (items[2]?).bind Json.items?⟩ := by
    simp [Report.ofJson, Json.slots, hlength, List.range_succ]
  rw [hread, Report.empty, Report.mk.injEq, bind_word64?_eq_none, bind_word64?_eq_none,
    bind_items?_eq_none]
  constructor
  · rintro ⟨herrors, hwarnings, hresults⟩
    refine ⟨fun place hplace => ?_, hresults⟩
    obtain rfl | rfl : place = 0 ∨ place = 1 := by omega
    · exact herrors
    · exact hwarnings
  · rintro ⟨hcounts, hresults⟩
    exact ⟨hcounts 0 (by decide), hcounts 1 (by decide), hresults⟩

/-- **No diagnostics come of an answer just if there is no object among the findings it
lists.** -/
theorem translate_eq_nil_iff {v : Json} {source : String} : translate (some v) source = [] ↔
    ∀ messages, v.Lists messages → ∀ finding ∈ messages, finding.isObject = false := by
  constructor
  · intro hnil messages hlists finding hfinding
    rw [translate_of_lists source hlists, List.map_eq_nil_iff, List.filterMap_eq_nil_iff] at hnil
    rw [← isSome_ofJson?, hnil finding hfinding]
    rfl
  · intro hnone
    by_cases hlists : ∃ messages, v.Lists messages
    · obtain ⟨messages, hlists⟩ := hlists
      rw [translate_of_lists source hlists, List.map_eq_nil_iff, List.filterMap_eq_nil_iff]
      intro finding hfinding
      rw [← Option.isNone_iff_eq_none, ← Option.not_isSome, isSome_ofJson?,
        hnone messages hlists finding hfinding]
      rfl
    · exact translate_of_not_lists source fun messages h => hlists ⟨messages, h⟩

namespace Json

/-- The last field of a record that is no object: it stands at the end of an array that has
all the fields. -/
theorem holds_last_iff {name : String} {place : Nat} {v value : Json}
    (hv : v.isObject = false) : v.Holds name place (place + 1) value ↔
      ∃ before, before.length = place ∧ v = .array (before ++ [value]) := by
  constructor
  · intro h
    cases h with
    | byKey _ => cases hv
    | @byPlace items _ hlength h =>
      obtain ⟨hplace, hget⟩ := List.getElem?_eq_some_iff.mp h
      have hlast : items.length - 1 = place := by omega
      have hne : items ≠ [] := List.ne_nil_of_length_pos (by omega)
      refine ⟨items.dropLast, by rw [List.length_dropLast, hlast], ?_⟩
      have hend : items.getLast hne = value := by
        rw [List.getLast_eq_getElem, ← hget]
        simp only [hlast]
      rw [← hend, List.dropLast_append_getLast]
  · rintro ⟨before, rfl, rfl⟩
    exact .byPlace (by simp) (by simp)

end Json

/-- **What comes of answers that are no objects.**

* Such an answer is the empty report, unless it is an array of at most three items with a
  count in one of the first two places or a list in the third.
* No diagnostics come of it, unless it is an array of three items, the third of which is a
  list whose first document lists an object among its findings.
* No diagnostics come of a report by name whose first document is no object, unless this
  is an array of four items, the last of which is a list with an object in it. -/
theorem silent_iff (source : String) :
    (∀ v : Json, v.isObject = false →
      (Report.ofJson v = .empty ↔ ∀ items, v = .array items → items.length ≤ 3 →
        (∀ place < 2, ∀ count, items[place]? = some count → ¬ count.IsCount) ∧
        ∀ list, items[2]? ≠ some (.array list)) ∧
      (translate (some v) source = [] ↔ ∀ errors warnings document more messages,
        v = .array [errors, warnings, .array (document :: more)] →
        document.Holds "messages" 3 4 (.array messages) →
        ∀ finding ∈ messages, finding.isObject = false)) ∧
    ∀ members document more, members.lookup "results" = some (.array (document :: more)) →
      document.isObject = false →
      (translate (some (.object members)) source = [] ↔ ∀ path errors warnings messages,
        document = .array [path, errors, warnings, .array messages] →
        ∀ finding ∈ messages, finding.isObject = false) := by
  refine ⟨fun v hv => ⟨?_, ?_⟩, ?_⟩
  · by_cases hshort : ∃ items, v = .array items ∧ items.length ≤ 3
    · obtain ⟨items, rfl, hlength⟩ := hshort
      rw [ofJson_array_eq_empty_iff hlength]
      constructor
      · rintro h _ ⟨⟩ _
        exact h
      · exact fun h => h items rfl hlength
    · refine iff_of_true ?_ fun items h hlength => absurd ⟨items, h, hlength⟩ hshort
      match v, hv with
      | .array items, _ =>
        have hlong : ¬ items.length ≤ 3 := fun h => hshort ⟨items, rfl, h⟩
        simp [Report.ofJson, Json.slots, hlong]
      | .null, _ | .bool _, _ | .number _, _ | .string _, _ => rfl
  · rw [translate_eq_nil_iff]
    constructor
    · rintro h errors warnings document more messages rfl hmessages
      exact h messages ⟨document, more, .byPlace (by simp) rfl, hmessages⟩
    · rintro h messages ⟨document, more, hresults, hmessages⟩
      obtain ⟨before, hbefore, rfl⟩ := (Json.holds_last_iff hv).mp hresults
      obtain ⟨errors, warnings, rfl⟩ := List.length_eq_two.mp hbefore
      exact h errors warnings document more messages rfl hmessages
  · intro members document more hresults hdocument
    rw [translate_eq_nil_iff]
    constructor
    · rintro h path errors warnings messages rfl
      exact h messages ⟨_, more, .byKey hresults, .byPlace (by simp) rfl⟩
    · rintro h messages ⟨document', more', hresults', hmessages⟩
      cases hresults'.unique (.byKey hresults)
      obtain ⟨before, hbefore, rfl⟩ := (Json.holds_last_iff hdocument).mp hmessages
      obtain ⟨path, errors, warnings, rfl⟩ := List.length_eq_three.mp hbefore
      exact h path errors warnings messages rfl

namespace Sample

/-- A finding. -/
def extra : Json :=
  .object [("column", .int 1), ("line", .int 1), ("message", .string "Extra semicolon."),
    ("ruleId", .string "semi"), ("severity", .int 2)]

/-- A report by place: no errors, no warnings, and a document with the finding. -/
def placed : Json :=
  .array [.nat 0, .nat 0, .array [.object [("messages", .array [extra])]]]

/-- A report by name, in which the document stands by place. -/
def nested : Json :=
  .object [("results", .array [.array [.null, .null, .null, .array [extra]]])]

end Sample

/-- An array of four items is the empty report, whatever it counts and lists; and the
document in a report by name may be an array that has no list at its end. -/
theorem silent_iff_long : (Json.array [.nat 1, .nat 1, .array [], .null]).isObject = false ∧
    Report.ofJson (.array [.nat 1, .nat 1, .array [], .null]) = .empty ∧
    translate (some (.object [("results", .array [.array [.array [Sample.extra]]])]))
      "standard" = [] := by
  refine ⟨rfl, (((silent_iff "standard").1 _ rfl).1).mpr ?_, ?_⟩
  · rintro _ ⟨⟩ hlength
    exact absurd hlength (by decide)
  · refine ((silent_iff "standard").2 _ (.array [.array [Sample.extra]]) [] rfl rfl).mpr ?_
    rintro path errors warnings messages ⟨⟩

/-- **Values that are no objects do say something**: a report by place is not the empty one
and has a diagnostic, and so has a report by name whose document stands by place. -/
theorem placed_not_silent :
    Sample.placed.isObject = false ∧ Report.ofJson Sample.placed ≠ .empty ∧
    (translate (some Sample.placed) "standard").map Diagnostic.message = ["Extra semicolon."] ∧
    (translate (some Sample.nested) "standard").map Diagnostic.message =
      ["Extra semicolon."] := by
  refine ⟨rfl, ?_, by decide, by decide⟩
  intro hempty
  have hresults := congrArg Report.results hempty
  cases hresults

end LintServer
