import LintServer.Bridge.Reply
import LintServer.Proofs.Json.Records
import Mathlib.Data.List.DropRight

/-! # The grammar of replies

A reply is one JSON object with a single member, between blanks.  Its key says what it is: a
`report` with any value, or an `error` or a `raised` with a failure.  A failure is a record of
one field, its message.  **The result of a lint call is read off this grammar and nothing else**
(`outcome_grammar`): what the child wrote is either exactly one such reply or no reply at all.

A member of a failure that is not its message is passed over, and so need not be a JSON value:
its strings may be no UTF-8 (`outcome_of_unsound_member`).
-/
namespace LintServer.Bridge
open Json Json.Reader Json.Grammar

/-! ## Words -/

/-- **How a failure is written**: an array of at most one value, or an object in which `message`
stands at most once and other members have the form of values. -/
def Failure (w : List UInt8) (m : Option String) : Prop :=
  failure.Written (IfText (depthLimit - 2)) w m

/-- One object with one member, between blanks: the key is `key` and the value a word of `P`. -/
def Sole (key : String) (P : List UInt8 → Prop) (input : List UInt8) : Prop :=
  ∃ b w b', Blank b ∧ Blank b' ∧ input = b ++ 123 :: (w ++ 125 :: b') ∧
    Chain (Member Text fun _ w (_ : Unit) => P w) true w [(key, ())]

namespace Reply

def kind : Reply → ReplyKind
  | .report _ => .report
  | .error _ => .error
  | .raised _ => .raised

/-- What may stand after the key. -/
def Body : Reply → List UInt8 → Prop
  | .report v, w => Decodes (depthLimit - 1) w v
  | .error m, w => Failure w m
  | .raised m, w => Failure w m

end Reply

/-! ## Reading a reply -/

theorem ofKey?_eq_some_iff {key : String} {kind : ReplyKind} :
    ReplyKind.ofKey? key = some kind ↔ key = kind.key := by
  constructor
  · intro h
    have hkey := List.find?_some h
    exact (beq_iff_eq.mp hkey).symm
  · rintro rfl
    cases kind <;> rfl

theorem reads_failure : Reads (failure.readFrom (depthLimit - 1)) Failure :=
  Record.reads (reads_textIfAny (depthLimit - 2))

theorem reads_body (kind : ReplyKind) :
    Reads (fun s => Reply.readBody (depthLimit - 1) s kind)
      fun w reply => reply.kind = kind ∧ reply.Body w := by
  cases kind with
  | report =>
    refine ((reads_decoded (depthLimit - 1)).map Reply.report).of_iff fun w reply => ?_
    cases reply <;> simp [Reply.kind, Reply.Body]
  | error =>
    refine (reads_failure.map Reply.error).of_iff fun w reply => ?_
    cases reply <;> simp [Reply.kind, Reply.Body]
  | raised =>
    refine (reads_failure.map Reply.raised).of_iff fun w reply => ?_
    cases reply <;> simp [Reply.kind, Reply.Body]

theorem close_eq_ok_iff {s rest : List UInt8} :
    Reply.close s = .ok rest ↔ ∃ b, Blank b ∧ s = b ++ 125 :: rest :=
  byte_eq_ok_iff (by decide) (by simp [here]) (by simp [here])

theorem openKey_eq_ok_iff {s rest : List UInt8} :
    Reply.openKey s = .ok rest ↔ ∃ b, Blank b ∧ s = b ++ 34 :: rest := by
  refine byte_eq_ok_iff (by decide) (by simp [next]) fun b r t h => ?_
  split at h <;> cases h

theorem readMember_eq_ok_iff {s rest : List UInt8} {reply : Reply} :
    Reply.readMember (depthLimit - 1) s = .ok (reply, rest) ↔
      ∃ w, s = w ++ 125 :: rest ∧
        Chain (Member Text fun _ w (_ : Unit) => reply.Body w) true w [(reply.kind.key, ())] := by
  constructor
  · intro h
    obtain ⟨t₁, hopen, hnext⟩ := bind_eq_ok_iff.mp h
    obtain ⟨b₁, hb₁, rfl⟩ := openKey_eq_ok_iff.mp hopen
    obtain ⟨⟨key, t₂⟩, htext, hafter⟩ := bind_eq_ok_iff.mp hnext
    obtain ⟨raw, rfl, hraw⟩ := text_eq_ok_iff.mp htext
    dsimp only at hafter
    split at hafter
    next => cases hafter
    next kind hkind =>
      obtain rfl := ofKey?_eq_some_iff.mp hkind
      obtain ⟨t₃, hcolon, hvalue⟩ := bind_eq_ok_iff.mp hafter
      obtain ⟨b₂, hb₂, rfl⟩ := colon_eq_ok_iff.mp hcolon
      obtain ⟨⟨reply', t₄⟩, hbody, hend⟩ := bind_eq_ok_iff.mp hvalue
      obtain ⟨t₅, hclose, hok⟩ := bind_eq_ok_iff.mp hend
      cases hok
      obtain ⟨b₃, w, hb₃, rfl, rfl, hw⟩ := (reads_body kind).sound hbody
      obtain ⟨b₄, hb₄, rfl⟩ := close_eq_ok_iff.mp hclose
      exact ⟨_, by simp, .item (.start hb₁) (.intro hraw hb₂ hb₃ hw) (.done hb₄)⟩
  · rintro ⟨w, rfl, hw⟩
    cases hw with
    | item hsep hm hmore =>
      cases hmore with
      | done hb₄ =>
        cases hsep with
        | start hb₁ =>
          obtain ⟨hraw, hb₂, hb₃, hw⟩ := hm
          have hstop : Stops (_ ++ 125 :: rest) := Stops.blank_append hb₄ (by simp [Stops])
          simp only [List.append_assoc, List.cons_append]
          refine bind_eq_ok_iff.mpr ⟨_, openKey_eq_ok_iff.mpr ⟨_, hb₁, rfl⟩, ?_⟩
          refine bind_eq_ok_iff.mpr ⟨_, text_eq_ok_iff.mpr ⟨_, rfl, hraw⟩, ?_⟩
          simp only [ofKey?_eq_some_iff.mpr rfl]
          refine bind_eq_ok_iff.mpr ⟨_, colon_eq_ok_iff.mpr ⟨_, hb₂, rfl⟩, ?_⟩
          refine bind_eq_ok_iff.mpr ⟨_, (reads_body _).complete hb₃ ⟨rfl, hw⟩ hstop, ?_⟩
          exact bind_eq_ok_iff.mpr ⟨_, close_eq_ok_iff.mpr ⟨_, hb₄, rfl⟩, rfl⟩

theorem refuseText_ne_ok {s : List UInt8} {y : Reply × List UInt8} :
    Reply.refuseText s ≠ .ok y := by
  intro h
  obtain ⟨⟨key, t⟩, -, hrefused⟩ := bind_eq_ok_iff.mp h
  dsimp only at hrefused
  split at hrefused <;> cases hrefused

/-- A reply is read after blanks, up to the brace that closes it. -/
theorem read_eq_ok_iff {s rest : List UInt8} {reply : Reply} :
    Reply.read s = .ok (reply, rest) ↔
      ∃ b w, Blank b ∧ s = b ++ 123 :: (w ++ 125 :: rest) ∧
        Chain (Member Text fun _ w (_ : Unit) => reply.Body w) true w [(reply.kind.key, ())] := by
  unfold Reply.read
  constructor
  · intro h
    split at h
    next => cases h
    next c r hs =>
      obtain ⟨b, hb, rfl, -⟩ := exists_blank_cons hs
      split at h
      next hc =>
        obtain ⟨w, rfl, hw⟩ := readMember_eq_ok_iff.mp h
        exact ⟨b, w, hb, by rw [hc], hw⟩
      next =>
        split at h
        next => exact absurd h refuseText_ne_ok
        next => cases h
  · rintro ⟨b, w, hb, rfl, hw⟩
    rw [skipBlank_append hb, skipBlank_cons (by decide)]
    exact readMember_eq_ok_iff.mpr ⟨w, rfl, hw⟩

/-- Nothing but blanks stands behind a reply. -/
theorem parse_eq_ok_iff_read {input : List UInt8} {reply : Reply} :
    Reply.parse input = .ok reply ↔ ∃ rest, Reply.read input = .ok (reply, rest) ∧ Blank rest := by
  constructor
  · intro h
    obtain ⟨⟨reply', rest⟩, hread, hnext⟩ := bind_eq_ok_iff.mp h
    obtain ⟨⟨⟩, hfinish, hok⟩ := bind_eq_ok_iff.mp hnext
    cases hok
    exact ⟨rest, hread, finish_eq_ok_iff.mp hfinish⟩
  · rintro ⟨rest, hread, hblank⟩
    refine bind_eq_ok_iff.mpr ⟨_, hread, ?_⟩
    exact bind_eq_ok_iff.mpr ⟨(), finish_eq_ok_iff.mpr hblank, rfl⟩

/-- **Exactly the replies of the grammar are read.** -/
theorem parse_eq_ok_iff {input : List UInt8} {reply : Reply} :
    Reply.parse input = .ok reply ↔ Sole reply.kind.key reply.Body input := by
  rw [parse_eq_ok_iff_read]
  constructor
  · rintro ⟨b', hread, hb'⟩
    obtain ⟨b, w, hb, hinput, hw⟩ := read_eq_ok_iff.mp hread
    exact ⟨b, w, b', hb, hb', hinput, hw⟩
  · rintro ⟨b, w, b', hb, hb', hinput, hw⟩
    exact ⟨b', read_eq_ok_iff.mpr ⟨b, w, hb, hinput, hw⟩, hb'⟩

/-! ## Complaints -/

/-- A text without the white space around it; none is left of white space alone. -/
inductive Trimmed : List Char → Option String → Prop
  | blank {cs : List Char} : (∀ c ∈ cs, Text.isBlank c = true) → Trimmed cs none
  | words {front back : List Char} {t : String} : (∀ c ∈ front, Text.isBlank c = true) →
      (∀ c ∈ back, Text.isBlank c = true) → t ≠ "" →
      (∀ c ∈ t.toList.head?, Text.isBlank c = false) →
      (∀ c ∈ t.toList.getLast?, Text.isBlank c = false) →
      Trimmed (front ++ (t.toList ++ back)) (some t)

theorem exists_trimChars (cs : List Char) :
    ∃ front back, cs = front ++ (Text.trimChars cs ++ back) ∧
      (∀ c ∈ front, Text.isBlank c = true) ∧ (∀ c ∈ back, Text.isBlank c = true) ∧
      (∀ c ∈ (Text.trimChars cs).head?, Text.isBlank c = false) ∧
      ∀ c ∈ (Text.trimChars cs).getLast?, Text.isBlank c = false := by
  have happ : Text.trimChars cs ++ (cs.dropWhile Text.isBlank).rtakeWhile Text.isBlank =
      cs.dropWhile Text.isBlank := List.rdropWhile_append_rtakeWhile
  refine ⟨cs.takeWhile Text.isBlank, (cs.dropWhile Text.isBlank).rtakeWhile Text.isBlank, ?_,
    fun _ h => List.mem_takeWhile_imp h, fun _ h => List.mem_rtakeWhile_imp h, fun c hc => ?_,
    fun c hc => ?_⟩
  · rw [happ, List.takeWhile_append_dropWhile]
  · have hhead := List.head?_dropWhile_not Text.isBlank cs
    rw [← happ, List.head?_append, Option.mem_def.mp hc] at hhead
    exact hhead
  · obtain ⟨hne, rfl⟩ := List.mem_getLast?_eq_getLast hc
    exact Bool.eq_false_iff.mpr (List.rdropWhile_last_not _ _ hne)

theorem trimmed_complaint (output : ChildOutput) :
    Trimmed (Utf8.lossy output.stderr).toList (complaint output) := by
  unfold complaint Text.trim
  generalize (Utf8.lossy output.stderr).toList = cs
  obtain ⟨front, back, hcs, hfront, hback, hhead, hlast⟩ := exists_trimChars cs
  generalize Text.trimChars cs = words at hcs hhead hlast
  subst hcs
  dsimp only
  split
  next hnone =>
    obtain rfl : words = [] := by simpa using hnone
    refine .blank fun c hc => ?_
    rw [List.nil_append, List.mem_append] at hc
    exact hc.elim (hfront c) (hback c)
  next hsome =>
    have hwords := String.toList_ofList (l := words)
    have htrimmed := Trimmed.words (t := String.ofList words) hfront hback hsome
    rw [hwords] at htrimmed
    exact htrimmed hhead hlast

/-! ## The result of a lint call -/

/-- A child that wrote nothing leaves its complaints. -/
theorem outcome_of_silent {output : ChildOutput} (h : output.stdout = []) :
    outcome output = .error (.lint (complaint output)) :=
  if_pos h

theorem outcome_eq {output : ChildOutput} (h : output.stdout ≠ []) :
    outcome output =
      match Reply.parse output.stdout with
      | .ok (.report v) => .ok v
      | .ok (.error m) => .error (.lint m)
      | .ok (.raised m) => .error (.raised m)
      | .error fault => .error (.protocol (fault.text output.stdout)) :=
  if_neg h

/-- What the outcome of a call says about what was written. -/
theorem outcome_iff {output : ChildOutput} (h : output.stdout ≠ []) :
    (∀ v, outcome output = .ok v ↔ Reply.parse output.stdout = .ok (.report v)) ∧
      (∀ m, outcome output = .error (.raised m) ↔ Reply.parse output.stdout = .ok (.raised m)) ∧
      (∀ m, outcome output = .error (.lint m) ↔ Reply.parse output.stdout = .ok (.error m)) ∧
      ((∃ text, outcome output = .error (.protocol text)) ↔
        ∀ reply, Reply.parse output.stdout ≠ .ok reply) := by
  rw [outcome_eq h]
  cases Reply.parse output.stdout with
  | error fault => simp
  | ok reply => cases reply <;> simp

/-- **The result of a lint call**, for every output of the child.

A child that wrote nothing leaves only its complaints: the call fails with them, trimmed, or
with no words if they are blank.  Otherwise the call has a report, was refused by a throw or
failed with a message just as what was written is a reply of that kind, and everything that is
no reply is malformed.  How the child ended and what it complained about do not matter then. -/
theorem outcome_grammar (output : ChildOutput) :
    (output.stdout = [] ∧ ∃ m, outcome output = .error (.lint m) ∧
      Trimmed (Utf8.lossy output.stderr).toList m) ∨
    (output.stdout ≠ [] ∧
      (∀ v, outcome output = .ok v ↔
        Sole "report" (fun w => Decodes (depthLimit - 1) w v) output.stdout) ∧
      (∀ m, outcome output = .error (.raised m) ↔
        Sole "raised" (fun w => Failure w m) output.stdout) ∧
      (∀ m, outcome output = .error (.lint m) ↔
        Sole "error" (fun w => Failure w m) output.stdout) ∧
      ((∃ text, outcome output = .error (.protocol text)) ↔
        ∀ reply : Reply, ¬ Sole reply.kind.key reply.Body output.stdout) ∧
      ∀ status stderr, outcome ⟨status, output.stdout, stderr⟩ = outcome output) := by
  by_cases h : output.stdout = []
  · exact .inl ⟨h, complaint output, outcome_of_silent h, trimmed_complaint output⟩
  · obtain ⟨hreport, hraised, herror, hprotocol⟩ := outcome_iff h
    refine .inr ⟨h, fun v => (hreport v).trans parse_eq_ok_iff,
      fun m => (hraised m).trans parse_eq_ok_iff, fun m => (herror m).trans parse_eq_ok_iff, ?_, ?_⟩
    · rw [hprotocol]
      exact forall_congr' fun reply => not_congr parse_eq_ok_iff
    · intro status stderr
      rw [outcome_eq h]
      exact outcome_eq h

/-- The bytes of `{"error":{"x":"?"}}`, with a byte 0xFF in place of the question mark. -/
def unsoundMember : List UInt8 :=
  [123, 34, 101, 114, 114, 111, 114, 34, 58, 123, 34, 120, 34, 58, 34, 255, 34, 125, 125]

/-- **A failure need not be a JSON text**: a member that is passed over may be no UTF-8, and then
what was written is neither a text nor a value. -/
theorem outcome_of_unsound_member :
    outcome ⟨.code 0, unsoundMember, []⟩ = .error (.lint none) ∧
      Utf8.string? unsoundMember = none ∧ ∀ v, Json.parse unsoundMember ≠ .ok v := by
  -- results cannot be compared as a whole, so what is decided is what the result is
  have houtcome : (match outcome ⟨.code 0, unsoundMember, []⟩ with
      | .error e => decide (e = .lint none)
      | .ok _ => false) = true := by decide +kernel
  have hparse : (Json.parse unsoundMember).isOk = false := by decide +kernel
  refine ⟨?_, by decide +kernel, fun v hv => ?_⟩
  · split at houtcome
    next e he => rw [he, of_decide_eq_true houtcome]
    next => cases houtcome
  · rw [hv] at hparse
    cases hparse

end LintServer.Bridge
