import LintServer.Engine.Node
import LintServer.Proofs.Json.Printing

/-! # Requests carry what they are made of

A request is one printed object of two members.  Printing loses nothing, so **the document and
the options are read back from the bytes as they were given**, and two calls write the same
bytes only for the same document and the same options (`NodeEngine.request_exact`).  Null
options count as the empty object.  The request is an object around the options, so the reader
goes deep enough for it just if the options leave one level free.
-/
namespace LintServer
open Json Json.Reader

namespace Bridge

/-- Options that a request may have: null or an object. -/
def Acceptable (opts : Json) : Prop := opts = .null ∨ opts.isObject = true

/-- The options a request carries: null stands for the empty object. -/
def carried : Json → Json
  | .null => .empty
  | opts => opts

theorem options_eq_ok_iff {opts opts' : Json} :
    options opts = .ok opts' ↔ Acceptable opts ∧ opts' = carried opts := by
  cases opts <;> simp [options, Acceptable, carried, isObject, eq_comm]

theorem kept_carried {opts : Json} (h : opts.Kept) : (carried opts).Kept := by
  cases opts with
  | null => exact .object .nil (by simp)
  | _ => exact h

theorem integral_carried {opts : Json} (h : opts.Integral) : (carried opts).Integral := by
  cases opts with
  | null => exact .object (by simp)
  | _ => exact h

/-! ## The value of a request -/

theorem keys_ascending (u v : Json) :
    [("options", u), ("text", v)].Pairwise fun m m' => m.1 < m'.1 := by
  have hlt : "options" < "text" := by decide
  exact List.pairwise_pair.mpr hlt

theorem requestValue_eq (text : String) (opts : Json) :
    requestValue text opts = .object [("options", opts), ("text", .string text)] := by
  have hlt : "options" < "text" := by decide
  simp only [requestValue, ofMembers, List.foldl_cons, List.foldl_nil, Json.insert, if_pos hlt]

theorem kept_requestValue {opts : Json} (h : opts.Kept) (text : String) :
    (requestValue text opts).Kept := by
  rw [requestValue_eq]
  refine .object (keys_ascending _ _) ?_
  simpa using ⟨h, .string text⟩

theorem integral_requestValue {opts : Json} (h : opts.Integral) (text : String) :
    (requestValue text opts).Integral := by
  rw [requestValue_eq]
  refine .object ?_
  simpa using ⟨h, .string text⟩

theorem depth_requestValue (text : String) (opts : Json) :
    (requestValue text opts).depth = opts.depth + 1 := by
  rw [requestValue_eq]
  simp [depth, membersDepth]

end Bridge

namespace NodeEngine
open Bridge

theorem accept_eq_ok_iff {engine : NodeEngine} {start : Command → Except StartError Location}
    {text : String} {opts : Json} {bytes : List UInt8} {place : Location} :
    engine.accept start text opts = .ok (bytes, place) ↔ Acceptable opts ∧
      start (engine.command .lint) = .ok place ∧ bytes = request text (carried opts) := by
  unfold accept
  constructor
  · intro h
    obtain ⟨opts', hopts, hok⟩ := bind_eq_ok_iff.mp h
    obtain ⟨haccept, rfl⟩ := options_eq_ok_iff.mp hopts
    split at hok
    next => cases hok
    next place' hstart =>
      cases hok
      exact ⟨haccept, hstart, rfl⟩
  · rintro ⟨haccept, hstart, rfl⟩
    rw [options_eq_ok_iff.mpr ⟨haccept, rfl⟩]
    simp only [Except.bind, hstart]

/-- **A request carries the document and the options exactly.**

Of options that are null or an object, kept as values are and with integers as their only
numbers, the bytes for the child have no raw controls.  They are read back as the object of the
two members just if the options leave a level of the reader's depth to the request.  Whoever
else writes the same bytes does so for the same document and the same options, null being the
empty object. -/
theorem request_exact (engine : NodeEngine) (start : Command → Except StartError Location)
    (place : Location) (text : String) (opts : Json) (haccept : Acceptable opts)
    (hkept : opts.Kept) (hint : opts.Integral)
    (hstart : start (engine.command .lint) = .ok place) :
    ∃ bytes, engine.accept start text opts = .ok (bytes, place) ∧
      (∀ b ∈ bytes, 32 ≤ b) ∧
      (Json.parse bytes = .ok (.object [("options", carried opts), ("text", .string text)]) ↔
        (carried opts).depth < depthLimit) ∧
      ∀ (engine' : NodeEngine) (start' : Command → Except StartError Location) (place' : Location)
        (text' : String) (opts' : Json), opts'.Kept → opts'.Integral →
        engine'.accept start' text' opts' = .ok (bytes, place') →
        text' = text ∧ carried opts' = carried opts := by
  have hvalue := kept_requestValue (kept_carried hkept) text
  have hinteger := integral_requestValue (integral_carried hint) text
  refine ⟨_, accept_eq_ok_iff.mpr ⟨haccept, hstart, rfl⟩, hinteger.printable.bytes, ?_, ?_⟩
  · rw [← requestValue_eq, request, parse_chars_iff hvalue hinteger, depth_requestValue]
    exact Iff.rfl
  · intro engine' start' place' text' opts' hkept' hint' haccept'
    obtain ⟨-, -, hbytes⟩ := accept_eq_ok_iff.mp haccept'
    have heq := eq_of_chars hvalue hinteger (kept_requestValue (kept_carried hkept') text')
      (integral_requestValue (integral_carried hint') text') hbytes
    rw [requestValue_eq, requestValue_eq] at heq
    simp only [Json.object.injEq, List.cons.injEq, Prod.mk.injEq, true_and, and_true,
      Json.string.injEq] at heq
    exact ⟨heq.2.symm, heq.1.symm⟩

/-- Options of several levels, with integers at both ends of their range. -/
def nestedOptions : Json :=
  .object [("a", .array [int (-0x8000000000000000), .object [("text", .null)]]),
    ("options", int 0xffffffffffffffff)]

/-- A document of all that is escaped, with characters beyond the basic plane. -/
theorem request_exact_nested :
    Acceptable nestedOptions ∧ nestedOptions.Kept ∧ nestedOptions.Integral ∧
      ∃ bytes, accept ⟨"node", ⟨"standard", .ofString "/m/standard", none⟩⟩ (fun _ => .ok [])
          "\"\\\n\t\x00\x1f\x7f\u2028😀" nestedOptions = .ok (bytes, []) ∧
        (∀ b ∈ bytes, 32 ≤ b) ∧
        Json.parse bytes = .ok (.object [("options", nestedOptions),
          ("text", .string "\"\\\n\t\x00\x1f\x7f\u2028😀")]) := by
  have haccept : Acceptable nestedOptions := .inr rfl
  have hkept : nestedOptions.Kept := by
    have hitems : ∀ v ∈ [int (-0x8000000000000000), .object [("text", .null)]], v.Kept := by
      simpa using ⟨.integer (by decide) (by decide), .object (by simp) (by simpa using .null)⟩
    refine .object (List.pairwise_pair.mpr (by decide)) ?_
    simpa using ⟨.array hitems, .integer (by decide) (by decide)⟩
  have hint : nestedOptions.Integral := by
    have hitems : ∀ v ∈ [int (-0x8000000000000000), .object [("text", .null)]], v.Integral := by
      simpa using ⟨.integer _, .object (by simpa using .null)⟩
    refine .object ?_
    simpa using ⟨.array hitems, .integer _⟩
  obtain ⟨bytes, hbytes, hlow, hparse, -⟩ := request_exact
    ⟨"node", ⟨"standard", .ofString "/m/standard", none⟩⟩ (fun _ => .ok []) []
    "\"\\\n\t\x00\x1f\x7f\u2028😀" nestedOptions haccept hkept hint rfl
  exact ⟨haccept, hkept, hint, bytes, hbytes, hlow, hparse.mpr (by decide)⟩

end NodeEngine

end LintServer
