import LintServer.Proofs.Json.Grammar
import LintServer.Proofs.Text.Utf8
import Mathlib.Data.List.TakeWhile

/-! # Reading words and strings

The readers of blanks, single bytes, words and strings against the grammar.  Each of these ends
with a byte of its own, so reading one is an equivalence.  The main one is `text_eq_ok_iff`: the
bytes up to the closing quote stand for the text, with escapes resolved and as UTF-8.
-/
namespace LintServer.Json
open Reader Grammar

theorem bind_eq_ok_iff {ε α β : Type} {x : Except ε α} {f : α → Except ε β} {b : β} :
    x >>= f = .ok b ↔ ∃ a, x = .ok a ∧ f a = .ok b := by
  cases x <;> simp [bind, Except.bind]

namespace Reader

/-! ## Blanks and words -/

theorem skipBlank_append {b : List UInt8} (hb : Blank b) (s : List UInt8) :
    skipBlank (b ++ s) = skipBlank s :=
  List.dropWhile_append_of_pos hb

theorem skipBlank_cons {b : UInt8} (hb : isBlankByte b = false) (s : List UInt8) :
    skipBlank (b :: s) = b :: s := by
  simp [skipBlank, hb]

/-- Blanks stand in front of what is left without them. -/
theorem exists_blank (s : List UInt8) : ∃ b, Blank b ∧ s = b ++ skipBlank s :=
  ⟨s.takeWhile isBlankByte, fun _ h => List.mem_takeWhile_imp h,
    List.takeWhile_append_dropWhile.symm⟩

theorem exists_blank_cons {s r : List UInt8} {c : UInt8} (h : skipBlank s = c :: r) :
    ∃ b, Blank b ∧ s = b ++ c :: r ∧ isBlankByte c = false := by
  obtain ⟨b, hb, hs⟩ := exists_blank s
  have hc := List.head?_dropWhile_not isBlankByte s
  rw [← skipBlank, h] at hc
  exact ⟨b, hb, h ▸ hs, hc⟩

/-- Looking for one byte after blanks. -/
theorem byte_eq_ok_iff {c : UInt8} (hc : isBlankByte c = false)
    {ended : Except Fault (List UInt8)} {other : UInt8 → List UInt8 → Except Fault (List UInt8)}
    (hended : ∀ t, ended ≠ .ok t) (hother : ∀ b r t, other b r ≠ .ok t) {s rest : List UInt8} :
    (match skipBlank s with
      | [] => ended
      | b :: r => if b = c then .ok r else other b r) = .ok rest ↔
      ∃ b, Blank b ∧ s = b ++ c :: rest := by
  constructor
  · intro h
    split at h
    next => exact absurd h (hended rest)
    next d r hs =>
      obtain ⟨b, hb, rfl, -⟩ := exists_blank_cons hs
      split at h
      next hd =>
        obtain rfl : r = rest := by simpa using h
        exact ⟨b, hb, by rw [hd]⟩
      next => exact absurd h (hother d r rest)
  · rintro ⟨b, hb, rfl⟩
    rw [skipBlank_append hb, skipBlank_cons hc]
    simp

theorem finish_eq_ok_iff {s : List UInt8} : finish s = .ok () ↔ Blank s := by
  unfold finish
  constructor
  · intro h
    split at h
    next hs =>
      obtain ⟨b, hb, hs'⟩ := exists_blank s
      rw [hs', hs, List.append_nil]
      exact hb
    next => cases h
  · intro h
    rw [← List.append_nil s, skipBlank_append h]
    rfl

theorem word_eq_ok_iff {letters s rest : List UInt8} :
    word letters s = .ok rest ↔ s = letters ++ rest := by
  fun_induction word letters s with
  | case1 s => simp
  | case2 l more => simp [here]
  | case3 l more s ih => rw [ih]; simp
  | case4 l more b s hb => simp [here, hb]

/-! ## Strings -/

theorem prepend_eq_ok_iff {front bytes rest : List UInt8}
    {read : Except Fault (List UInt8 × List UInt8)} :
    prepend front read = .ok (bytes, rest) ↔
      ∃ more, read = .ok (more, rest) ∧ bytes = front ++ more := by
  unfold prepend
  constructor
  · intro h
    split at h
    next more rest' =>
      obtain ⟨rfl, rfl⟩ : front ++ more = bytes ∧ rest' = rest := by simpa using h
      exact ⟨more, rfl, rfl⟩
    next => cases h
  · rintro ⟨more, rfl, rfl⟩
    rfl

theorem stringBytes_sound {s bytes rest : List UInt8} (h : stringBytes s = .ok (bytes, rest)) :
    ∃ raw, s = raw ++ 34 :: rest ∧ Escaped raw bytes := by
  fun_induction stringBytes s generalizing bytes with
  | case2 r =>
    obtain ⟨rfl, rfl⟩ : [] = bytes ∧ r = rest := by simpa using h
    exact ⟨[], rfl, .nil⟩
  | case9 h1 h2 h3 h4 n hn _ hlead k1 k2 k3 k4 r m hm htrail scalar _ =>
    rename_i ih
    obtain ⟨more, hmore, hbytes⟩ := prepend_eq_ok_iff.mp h
    obtain ⟨raw, rfl, hraw⟩ := ih hmore
    rw [hbytes]
    exact ⟨_, rfl, .pair hn hlead hm htrail hraw⟩
  | case14 h1 h2 h3 h4 r n hn htrail hlead _ ih =>
    obtain ⟨more, hmore, rfl⟩ := prepend_eq_ok_iff.mp h
    obtain ⟨raw, rfl, hraw⟩ := ih hmore
    exact ⟨_, rfl, .unit hn (by simpa using hlead) (by simpa using htrail) hraw⟩
  | case16 e r _ byte he _ ih =>
    obtain ⟨more, hmore, rfl⟩ := prepend_eq_ok_iff.mp h
    obtain ⟨raw, rfl, hraw⟩ := ih hmore
    exact ⟨_, rfl, .letter he hraw⟩
  | case19 b r hquote hslash hlow ih =>
    obtain ⟨more, hmore, rfl⟩ := prepend_eq_ok_iff.mp h
    obtain ⟨raw, rfl, hraw⟩ := ih hmore
    exact ⟨_, rfl, .plain hquote hslash (UInt8.not_lt.mp hlow) hraw⟩
  | _ => cases h

theorem ne_of_escapeByte? {e : UInt8} (h : (escapeByte? e).isSome = true) : e ≠ 117 := by
  rintro rfl
  cases h

theorem isTrailing_of_isLeading {n : Nat} (h : isLeading n = true) : isTrailing n = false := by
  simp only [isLeading, Bool.and_eq_true, decide_eq_true_eq] at h
  simp only [isTrailing, Bool.and_eq_false_iff, decide_eq_false_iff_not]
  omega

theorem stringBytes_complete {raw bytes : List UInt8} (h : Escaped raw bytes) (rest : List UInt8) :
    stringBytes (raw ++ 34 :: rest) = .ok (bytes, rest) := by
  induction h with
  | nil => rw [List.nil_append, stringBytes.eq_def]; simp
  | plain hquote hslash hlow _ ih =>
    rw [List.cons_append, stringBytes.eq_def]
    simp [hquote, hslash, UInt8.not_lt.mpr hlow, ih, prepend]
  | letter he _ ih =>
    have hu := ne_of_escapeByte? (by rw [he]; rfl)
    rw [List.cons_append, List.cons_append, stringBytes.eq_def]
    simp [hu, he, ih, prepend]
  | unit hn hlead htrail _ ih =>
    simp only [List.cons_append]
    rw [stringBytes.eq_def]
    simp [hn, hlead, htrail, ih, prepend]
  | pair hn hlead hm htrail _ ih =>
    have hne : isTrailing _ = false := isTrailing_of_isLeading hlead
    simp only [List.cons_append]
    rw [stringBytes.eq_def]
    simp [hn, hne, hlead, hm, htrail, ih, prepend]

/-- **A string is read** up to its closing quote. -/
theorem text_eq_ok_iff {s rest : List UInt8} {t : String} :
    text s = .ok (t, rest) ↔ ∃ raw, s = raw ++ 34 :: rest ∧ Text raw t := by
  unfold text
  constructor
  · intro h
    split at h
    next => cases h
    next bytes rest' hbytes =>
      split at h
      next t' ht' =>
        obtain ⟨rfl, rfl⟩ : t' = t ∧ rest' = rest := by simpa using h
        obtain ⟨raw, hs, hraw⟩ := stringBytes_sound hbytes
        rw [Utf8.string?_eq_some_iff.mp ht'] at hraw
        exact ⟨raw, hs, hraw⟩
      next => cases h
  · rintro ⟨raw, rfl, hraw⟩
    rw [stringBytes_complete hraw rest]
    simp only [Utf8.string?_eq_some_iff.mpr rfl]

theorem skipString_eq_ok_iff {s rest : List UInt8} :
    skipString s = .ok rest ↔ ∃ raw, s = raw ++ 34 :: rest ∧ EscapedForm raw := by
  constructor
  · intro h
    fun_induction skipString s with
    | case2 r =>
      obtain rfl : r = rest := by simpa using h
      exact ⟨[], rfl, .nil⟩
    | case5 h1 h2 h3 h4 r n hn _ ih =>
      obtain ⟨raw, rfl, hraw⟩ := ih h
      exact ⟨_, rfl, .unit (by simp [hn]) hraw⟩
    | case7 e r _ he _ ih =>
      obtain ⟨raw, rfl, hraw⟩ := ih h
      exact ⟨_, rfl, .letter he hraw⟩
    | case10 b r hquote hslash hlow ih =>
      obtain ⟨raw, rfl, hraw⟩ := ih h
      exact ⟨_, rfl, .plain hquote hslash (UInt8.not_lt.mp hlow) hraw⟩
    | _ => cases h
  · rintro ⟨raw, rfl, hraw⟩
    induction hraw with
    | nil => rw [List.nil_append, skipString.eq_def]; simp
    | plain hquote hslash hlow _ ih =>
      rw [List.cons_append, skipString.eq_def]
      simp [hquote, hslash, UInt8.not_lt.mpr hlow, ih]
    | letter he _ ih =>
      have hu := ne_of_escapeByte? he
      rw [List.cons_append, List.cons_append, skipString.eq_def]
      simp [hu, he, ih]
    | unit hn _ ih =>
      obtain ⟨n, hn⟩ := Option.isSome_iff_exists.mp hn
      simp only [List.cons_append]
      rw [skipString.eq_def]
      simp [hn, ih]

end Reader
end LintServer.Json
