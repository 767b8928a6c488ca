import LintServer.Proofs.Bridge.Replies

/-! # Replies that were cut off

A child that dies while it writes leaves the beginning of a reply behind.  The reader of a
reply stops at the brace that closes it and takes no notice of what follows
(`Reply.read_append`).  So a reply can go on after another one in blanks only
(`Reply.parse_append_iff`), and **what was cut off before the closing brace is no reply**
(`truncated_malformed`), wherever the cut falls: inside a string, an escape, a character of
several bytes, a number or a word, or between any two of them.
-/
namespace LintServer.Bridge
open Json Json.Reader Json.Grammar

namespace Reply

/-- What follows the closing brace has no part in reading a reply. -/
theorem read_append {s rest : List UInt8} {reply : Reply} (h : read s = .ok (reply, rest))
    (more : List UInt8) : read (s ++ more) = .ok (reply, rest ++ more) := by
  obtain ⟨b, w, hb, rfl, hw⟩ := read_eq_ok_iff.mp h
  exact read_eq_ok_iff.mpr ⟨b, w, hb, by simp, hw⟩

/-- **A reply begins with another one** only if they are the same, but for blanks at the end. -/
theorem parse_append_iff {s more : List UInt8} {reply reply' : Reply} (h : parse s = .ok reply) :
    parse (s ++ more) = .ok reply' ↔ reply' = reply ∧ Blank more := by
  obtain ⟨rest, hread, hrest⟩ := parse_eq_ok_iff_read.mp h
  have hlonger := read_append hread more
  rw [parse_eq_ok_iff_read]
  constructor
  · rintro ⟨rest', hread', hblank⟩
    obtain ⟨rfl, rfl⟩ : reply = reply' ∧ rest ++ more = rest' := by
      simpa using hlonger.symm.trans hread'
    exact ⟨rfl, fun b hb => hblank b (List.mem_append_right rest hb)⟩
  · rintro ⟨rfl, hmore⟩
    exact ⟨rest ++ more, hlonger, hrest.append hmore⟩

/-- A reply that ends with its brace has no other reply in front of it. -/
theorem parse_ne_ok_of_truncated {w cut : List UInt8} {reply : Reply} (hreply : parse w = .ok reply)
    (hlast : w.getLast? = some 125) (hbegins : cut <+: w) (hproper : cut ≠ w) (reply' : Reply) :
    parse cut ≠ .ok reply' := by
  intro hcut
  obtain ⟨lost, rfl⟩ := hbegins
  have hlost : lost ≠ [] := by
    rintro rfl
    exact hproper (List.append_nil cut).symm
  obtain ⟨-, hblank⟩ := (parse_append_iff hcut).mp hreply
  have hbrace : (125 : UInt8) ∈ lost := by
    rw [List.getLast?_append_of_ne_nil _ hlost] at hlast
    exact List.mem_of_getLast? hlast
  have hnot := hblank 125 hbrace
  revert hnot
  decide

end Reply

/-- **A reply that was cut off is never taken for a reply.**

Of every report, error or throw that ends with its closing brace, whatever was written of it
when the child died: the call fails, and not as one that was refused, however the child ended.
If anything was written, it is malformed; if nothing was, the child's complaints are left,
trimmed. -/
theorem truncated_malformed {w cut : List UInt8} {reply : Reply}
    (hreply : Reply.parse w = .ok reply) (hlast : w.getLast? = some 125) (hbegins : cut <+: w)
    (hproper : cut ≠ w) (status : ExitStatus) (stderr : List UInt8) :
    ∃ error, outcome ⟨status, cut, stderr⟩ = .error error ∧ error.isRaised = false ∧
      (cut ≠ [] → ∃ detail, error = .protocol detail) ∧
      (cut = [] → ∃ m, error = .lint m ∧ Trimmed (Utf8.lossy stderr).toList m) := by
  let output : ChildOutput := ⟨status, cut, stderr⟩
  by_cases hnone : output.stdout = []
  · exact ⟨.lint (complaint output), outcome_of_silent hnone, rfl,
      fun hsome => absurd hnone hsome, fun _ => ⟨_, rfl, trimmed_complaint output⟩⟩
  · have hrefused := Reply.parse_ne_ok_of_truncated hreply hlast hbegins hproper
    obtain ⟨-, -, -, hprotocol⟩ := outcome_iff hnone
    obtain ⟨detail, hdetail⟩ := hprotocol.mpr hrefused
    exact ⟨.protocol detail, hdetail, rfl, fun _ => ⟨detail, rfl⟩, fun h => absurd h hnone⟩

/-- The bytes of a throw whose message is a closing brace. -/
def braceRaised : List UInt8 :=
  [123, 34, 114, 97, 105, 115, 101, 100, 34, 58, 123, 34, 109, 101, 115, 115, 97, 103, 101, 34, 58,
    34, 125, 34, 125, 125]

/-- Cut off after the brace in its message, it still ends with a brace, and is malformed. -/
theorem truncated_malformed_braces :
    Reply.parse braceRaised = .ok (.raised (some "\x7d")) ∧
      (braceRaised.take 23).getLast? = some 125 ∧
      ∃ detail, outcome ⟨.signal 9, braceRaised.take 23, []⟩ = .error (.protocol detail) := by
  have hread : (match Reply.parse braceRaised with
      | .ok (.raised m) => decide (m = some "\x7d")
      | _ => false) = true := by decide +kernel
  have hreply : Reply.parse braceRaised = .ok (.raised (some "\x7d")) := by
    split at hread
    next m hm => rw [hm, of_decide_eq_true hread]
    next => cases hread
  obtain ⟨error, herror, -, hmalformed, -⟩ := truncated_malformed hreply rfl
    (List.take_prefix 23 braceRaised) (by decide) (.signal 9) []
  obtain ⟨detail, rfl⟩ := hmalformed (by decide)
  exact ⟨hreply, rfl, detail, herror⟩

end LintServer.Bridge
