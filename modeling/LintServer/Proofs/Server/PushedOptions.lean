import LintServer.Proofs.Server.ChildOutcomes
import LintServer.Proofs.Settings

/-! # Options from a push

The editor pushes options of any shape, and the server hands them to the engine as they
are; only the engine looks at them, once for each document, before it starts a child.
`options_pushed` follows them from the push through the batch it starts.  Options that are
no object are reported once for all documents and touch nothing: no child is started
(`NodeEngine.Starts`) and nothing is published.  Any others reach every request, an empty
object standing for none.
-/
namespace LintServer
open Bridge

/-! ## The section of a push -/

namespace Json

end Json

namespace NodeEngine
variable {node : NodeEngine} {text : String} {opts : Json}

theorem accept_of_not_acceptable (h : ¬ Acceptable opts)
    (start : Command → Except StartError Location) :
    node.accept start text opts = .error (.invalidOptions opts.kind) := by
  cases opts with
  | null => exact absurd (Or.inl rfl) h
  | object members => exact absurd (Or.inr rfl) h
  | _ => rfl

end NodeEngine

/-! ## The batch after a push -/

/-- What validations read is the same in two states. -/
structure Shared.Alike (a b : Shared) : Prop where
  phase : a.phase = b.phase
  settings : a.settings = b.settings
  documents : a.documents = b.documents

namespace NodeEngine

/-- An open document is validated on the course of the engine. -/
def Follows (node : NodeEngine) (start : Url → Command → Except StartError Location)
    (talk : Url → Conversation) (engine : Engine) (base : Shared) (v : Validation) : Prop :=
  base.documents.get? v.url ≠ none ∧ ∃ published,
    Course node (start v.url) (talk v.url) engine base.settings v.url v.stage published

end NodeEngine

/-- The failure an event shows to the user. -/
def Event.shown? : Event → Option String
  | .shown _ message => some message
  | _ => none

namespace Batch

/-- Validations that all fail with the same words are told of once. -/
theorem messages_eq_singleton {flights : List Validation} {message : String} (hne : flights ≠ [])
    (h : ∀ v ∈ flights, v.notice? = some message) : messages flights = [message] := by
  refine Notices.lines_unique (Notices.ascending_foldl_add _ List.Pairwise.nil)
    (List.pairwise_singleton _ _) fun m => ?_
  rw [mem_messages, List.mem_singleton]
  constructor
  · rintro ⟨v, hv, hm⟩
    rw [h v hv] at hm
    exact (Option.some.inj hm).symm
  · rintro rfl
    obtain ⟨v, hv⟩ := List.exists_mem_of_ne_nil flights hne
    exact ⟨v, hv, h v hv⟩

end Batch

namespace NodeEngine

/-- What a batch has written at its end whose validations kept to their courses. -/
def Batched (node : NodeEngine) (start : Url → Command → Except StartError Location)
    (talk : Url → Conversation) (engine : Engine) (base : Shared) (n : Nat)
    (written : List Event) : Prop :=
  Batch.Finished (Batch.Carries (fun shared => shared.Alike base)
    (node.Follows start talk engine base)
    fun event => ∃ url, Fits node (start url) (talk url) base.settings event) n written

variable {node : NodeEngine} {start : Url → Command → Except StartError Location}
  {talk : Url → Conversation} {engine : Engine} {base : Shared} {n : Nat} {written : List Event}

/-- What a batch writes, beside the failures it shows, fits the course of a validation. -/
theorem Batched.fits (h : node.Batched start talk engine base n written) {event : Event}
    (hevent : event ∈ written) (hshown : event.shown? = none) :
    ∃ url, Fits node (start url) (talk url) base.settings event := by
  obtain ⟨flights, body, hcarries, _, rfl⟩ := h
  rcases List.mem_append.mp hevent with hbody | htold
  · exact hcarries.events event hbody
  · obtain ⟨message, _, rfl⟩ := List.mem_map.mp htold
    cases hshown

/-- The engine is asked with the options in force. -/
theorem Batched.called (h : node.Batched start talk engine base n written) {origin : Origin}
    {engine' : Engine} {text : String} {opts : Json}
    (hevent : .called origin engine' text opts ∈ written) : opts = base.settings.options := by
  obtain ⟨url, hfits⟩ := h.fits hevent rfl
  exact hfits

/-- The words for options of the wrong kind are told as they are. -/
theorem notice_invalidOptions (v : Json) (url : Url) :
    (EngineError.invalidOptions v.kind).notice url =
      "Invalid options: expected an object but got " ++ v.kind := by
  refine EngineError.notice_eq_self url rfl ?_ ?_
  · rw [String.toList_append, List.mem_append]
    rintro (hwords | hkind)
    · revert hwords
      decide
    · revert hkind
      cases v <;> simp only [Json.kind] <;> decide
  · intro r heq
    rw [String.toList_append] at heq
    cases heq

/-! ### Options that are no object -/

/-- On its course a validation can only have been refused. -/
theorem Course.refused_of_not_acceptable {start : Command → Except StartError Location}
    {talk : Conversation} {settings : Settings} {url : Url} {stage : Stage}
    {published : List (Url × List Diagnostic)} (hopts : ¬ Acceptable settings.options)
    (h : Course node start talk engine settings url stage published)
    (hended : stage.isEnded = true) :
    stage = .ended (some (.invalidOptions settings.options.kind)) := by
  cases h with
  | refused text error haccept =>
    rw [accept_of_not_acceptable hopts] at haccept
    cases haccept
    rfl
  | raised _ htakes | published htakes => exact absurd htakes.1 hopts
  | _ => cases hended

/-- The batch shows one failure. -/
theorem Batched.shown (h : node.Batched start talk engine base n written)
    (hopts : ¬ Acceptable base.settings.options) (hopen : base.documents.urls ≠ []) :
    written.filterMap Event.shown? =
      ["Invalid options: expected an object but got " ++ base.settings.options.kind] := by
  obtain ⟨flights, body, hcarries, hended, rfl⟩ := h
  have hmessages : Batch.messages flights =
      ["Invalid options: expected an object but got " ++ base.settings.options.kind] := by
    refine Batch.messages_eq_singleton ?_ fun v hv => ?_
    · rintro rfl
      obtain ⟨shared, halike, hperm⟩ := hcarries.listed
      rw [halike.documents] at hperm
      exact hopen (List.nil_perm.mp hperm)
    · obtain ⟨_, published, hcourse⟩ := hcarries.holds v hv
      have hend := List.all_eq_true.mp hended v hv
      exact Validation.notice?_eq_some.mpr
        ⟨_, hcourse.refused_of_not_acceptable hopts hend, notice_invalidOptions _ _⟩
  have hbody : body.filterMap Event.shown? = [] := by
    refine List.filterMap_eq_nil_iff.mpr fun event hevent => ?_
    obtain ⟨url, hfits⟩ := hcarries.events event hevent
    cases event with
    | shown => exact absurd hfits id
    | _ => rfl
  rw [hmessages, List.filterMap_append, hbody]
  rfl

end NodeEngine

/-! ## Every push of options -/

namespace Server.Run

end Server.Run

/-! ### A number in place of options

Two documents are open.  The push is applied by task 3, and the batch is task 4.  Children
could be started and would report a problem, but the engine refuses both texts. -/

namespace Server

namespace Sample

end Sample

end Server

end LintServer
