import LintServer.Proofs.Notices
import LintServer.Proofs.Text.Utf8
import LintServer.Proofs.Url.Visible
import Mathlib.Data.List.Infix

/-! # When a notice is one line

The words of a failure lose their line breaks (`lineFeed_notMem_oneLine`), and a URL has none
to lose (`Url.isVisible_of_parse`).  A failure without words names a file, though, and the
file's path is decoded from the URL.  There a line break appears just where the URL has one
encoded, so that a notice can have more than one line
(`EngineError.lineFeed_mem_notice_iff`, `EngineError.notice_of_two_lines`).
-/
namespace LintServer

/-! ## Words -/

theorem lineFeed_notMem_oneLine (cs : List Char) : '\n' ∉ oneLine cs := by
  fun_induction oneLine cs with
  | case1 => simp
  | case2 r ih => simpa using ih
  | case3 r ih => simpa using ih
  | case4 c r _ hbreak ih =>
    intro hmem
    rcases List.mem_cons.mp hmem with rfl | hmem
    · exact hbreak rfl
    · exact ih hmem

theorem withoutMark_suffix (cs : List Char) : withoutMark cs <:+ cs := by
  unfold withoutMark
  split
  · exact ⟨"CLI: ".toList, rfl⟩
  · exact List.suffix_rfl

/-! ## Bytes -/

/-- The byte of the line feed. -/
def Utf8.lineFeed : UInt8 := 10

namespace Utf8

/-- Of all characters only the line feed has its byte. -/
theorem lineFeed_mem_encodeChar_iff {c : Char} : lineFeed ∈ encodeChar c ↔ c = '\n' := by
  constructor
  · intro hmem
    have hnumber : lineFeed.toNat = 10 := rfl
    have hvalid : c.toNat < 0x110000 := by
      have hchar : c.toNat < 0xD800 ∨ 0xDFFF < c.toNat ∧ c.toNat < 0x110000 := c.valid
      omega
    have hc : c.toNat = 10 := by
      unfold encodeChar at hmem
      dsimp only at hmem
      repeat' split at hmem
      all_goals
        simp only [List.mem_cons, List.not_mem_nil, or_false, ← UInt8.toNat_inj,
          UInt8.toNat_ofNat', hnumber] at hmem
        omega
    rw [← Char.ofNat_toNat c, hc]
  · rintro rfl
    decide

theorem lineFeed_mem_encode_iff {cs : List Char} : lineFeed ∈ encode cs ↔ '\n' ∈ cs := by
  simp [encode, List.mem_flatMap, lineFeed_mem_encodeChar_iff]

theorem encode_injective {cs ds : List Char} (h : encode cs = encode ds) : cs = ds := by
  have hread : decode? (encode cs) = some cs := decode?_eq_some_iff.mpr rfl
  rw [h, decode?_eq_some_iff.mpr rfl] at hread
  exact (Option.some.inj hread).symm

theorem lineFeed_mem_pieces_iff {bytes : List UInt8} :
    some '\n' ∈ pieces bytes ↔ lineFeed ∈ bytes := by
  -- a stretch that is read as a character, and one that is faulty
  have hread {c : Char} {stretch rest : List UInt8} (hc : encodeChar c = stretch)
      (ih : some '\n' ∈ pieces rest ↔ lineFeed ∈ rest) :
      some '\n' ∈ some c :: pieces rest ↔ lineFeed ∈ stretch ++ rest := by
    rw [List.mem_cons, List.mem_append, ih, ← hc, lineFeed_mem_encodeChar_iff, Option.some.injEq,
      eq_comm]
  have hfirst (a : UInt8) (ha : width a ≠ 1) : a ≠ lineFeed := by
    rintro rfl
    exact ha rfl
  have htail (b : UInt8) (hb : isTail b = true) : b ≠ lineFeed := by
    rintro rfl
    exact absurd hb (by decide)
  have hsecond (a b : UInt8) (hb : fits a b = true) : b ≠ lineFeed := by
    rintro rfl
    have := (fits_iff.mp hb).1
    exact absurd this (by decide)
  fun_induction pieces bytes with
  | case1 => simp
  | case2 a rest ha ih => exact hread (encodeChar_one ha) ih
  | case3 a ha b rest hb ih => exact hread (encodeChar_two ha hb) ih
  | case6 a ha b hb c rest hc ih => exact hread (encodeChar_three ha hb hc) ih
  | case11 a ha b hb c hc d rest hd ih => exact hread (encodeChar_four ha hb hc hd) ih
  | _ => grind

theorem lineFeed_mem_lossy_iff {bytes : List UInt8} :
    '\n' ∈ (lossy bytes).toList ↔ lineFeed ∈ bytes := by
  rw [lossy, String.toList_ofList, ← lineFeed_mem_pieces_iff, List.mem_map]
  constructor
  · rintro ⟨_ | c, hmem, heq⟩
    · exact absurd heq (by decide)
    · exact heq ▸ hmem
  · intro hmem
    exact ⟨some '\n', hmem, rfl⟩

end Utf8

namespace Url

theorem hexDigit?_cases {b : UInt8} {n : Nat} (h : hexDigit? b = some n) :
    48 ≤ b.toNat ∧ b.toNat ≤ 57 ∧ b.toNat = n + 48 ∨
      65 ≤ b.toNat ∧ b.toNat ≤ 70 ∧ b.toNat = n + 55 ∨
      97 ≤ b.toNat ∧ b.toNat ≤ 102 ∧ b.toNat = n + 87 := by
  unfold hexDigit? at h
  simp only [UInt8.le_iff_toNat_le, Bool.and_eq_true, decide_eq_true_eq, UInt8.reduceToNat] at h
  repeat' split at h
  all_goals cases h
  all_goals omega

/-- Which two digits stand for a line feed. -/
theorem ofNat_eq_lineFeed_iff {b c : UInt8} {m n : Nat} (hb : hexDigit? b = some m)
    (hc : hexDigit? c = some n) :
    UInt8.ofNat (m * 16 + n) = Utf8.lineFeed ↔ b = 48 ∧ (c = 65 ∨ c = 97) := by
  have hm := hexDigit?_cases hb
  have hn := hexDigit?_cases hc
  have hnumber : Utf8.lineFeed.toNat = 10 := rfl
  simp only [← UInt8.toNat_inj, UInt8.toNat_ofNat', hnumber, UInt8.reduceToNat]
  omega

theorem ne_of_hexDigit? {b : UInt8} {n : Nat} (h : hexDigit? b = some n) :
    b ≠ 37 ∧ b ≠ Utf8.lineFeed := by
  have hcases := hexDigit?_cases h
  have hnumber : Utf8.lineFeed.toNat = 10 := rfl
  simp only [ne_eq, ← UInt8.toNat_inj, hnumber, UInt8.reduceToNat]
  omega

/-- **Where resolving percent signs gives a line feed**: where there was one, and where one
was encoded. -/
theorem lineFeed_mem_decodeBytes_iff {bytes : List UInt8} :
    Utf8.lineFeed ∈ decodeBytes bytes ↔
      Utf8.lineFeed ∈ bytes ∨ [37, 48, 65] <:+: bytes ∨ [37, 48, 97] <:+: bytes := by
  fun_induction decodeBytes bytes with
  | case1 => simp
  | case2 a => simp [List.infix_cons_iff]
  | case3 a b => simp [List.infix_cons_iff]
  | case4 a b c r m n hc hb ha ih =>
    have ha : a = 37 := eq_of_beq ha
    have hne : Utf8.lineFeed ≠ 37 := by decide
    have hb' := ne_of_hexDigit? hb
    have hc' := ne_of_hexDigit? hc
    -- the digits are no percent signs, so that nothing starts between them
    simp only [List.mem_cons, ih, List.infix_cons_iff, List.cons_prefix_cons, List.nil_prefix,
      eq_comm (a := Utf8.lineFeed), ofNat_eq_lineFeed_iff hb hc]
    grind
  | case5 a b c r hnot ih =>
    have hdigits (x : UInt8) (hx : hexDigit? x ≠ none) : ¬ [37, 48, x] <+: a :: b :: c :: r := by
      rintro ⟨rest, heq⟩
      obtain ⟨n, hn⟩ := Option.ne_none_iff_exists'.mp hx
      simp only [List.cons_append, List.nil_append, List.cons.injEq] at heq
      obtain ⟨rfl, rfl, rfl, -⟩ := heq
      exact hnot 0 n rfl rfl hn
    rw [List.mem_cons, ih, List.mem_cons (l := b :: c :: r), List.infix_cons_iff (a := a),
      or_iff_right (hdigits 65 (by decide)), List.infix_cons_iff (a := a),
      or_iff_right (hdigits 97 (by decide)), or_assoc]

/-! ## Encoded line breaks -/

/-- **A line break is encoded in a text**: there is a percent sign with its digits. -/
def EncodesBreak (text : String) : Prop :=
  "%0A".toList <:+: text.toList ∨ "%0a".toList <:+: text.toList

theorem Visible.lineFeed_notMem {cs : List Char} (h : Visible cs) : '\n' ∉ cs := by
  intro hmem
  exact absurd (h '\n' hmem) (by decide)

theorem encode_of_visible {cs : List Char} (h : Visible cs) :
    Utf8.encode cs = cs.map fun c => UInt8.ofNat c.toNat := by
  have hone : ∀ c ∈ cs, Utf8.encodeChar c = [UInt8.ofNat c.toNat] := by
    intro c hc
    have hascii := isControl_eq_false_iff.mp (h c hc)
    simp only [Utf8.encodeChar]
    rw [if_pos (by omega)]
  rw [Utf8.encode, List.flatMap_congr hone, List.map_eq_flatMap]

/-- A stretch of a visible text is seen from the bytes: there is one for each character. -/
theorem encode_infix_iff (stretch : List Char) {cs : List Char} (h : Visible cs) :
    Utf8.encode stretch <:+: Utf8.encode cs ↔ stretch <:+: cs := by
  constructor
  · intro hinfix
    rw [encode_of_visible h] at hinfix
    obtain ⟨found, hfound, heq⟩ := List.infix_map_iff.mp hinfix
    rw [← encode_of_visible (h.subset hfound.subset)] at heq
    exact Utf8.encode_injective heq ▸ hfound
  · rintro ⟨front, back, rfl⟩
    rw [Utf8.encode_append, Utf8.encode_append]
    exact ⟨_, _, rfl⟩

theorem lineFeed_mem_decode_iff {text : String} (h : Visible text.toList) :
    Utf8.lineFeed ∈ decode text ↔ EncodesBreak text := by
  have hnone : Utf8.lineFeed ∉ Utf8.encode text.toList := fun hmem =>
    h.lineFeed_notMem (Utf8.lineFeed_mem_encode_iff.mp hmem)
  rw [decode, Utf8.ofString, lineFeed_mem_decodeBytes_iff, or_iff_right hnone]
  exact or_congr (encode_infix_iff "%0A".toList h) (encode_infix_iff "%0a".toList h)

/-- **When the file a URL names has a line break in its path.** -/
theorem lineFeed_mem_filePath_iff {u : Url} (h : u.IsVisible) :
    (∃ path, u.filePath? = some path ∧ Utf8.lineFeed ∈ path.bytes) ↔
      (u.host = none ∨ u.host = some "" ∨ u.host = some "localhost") ∧
        ∃ segments, u.route = .rooted segments ∧ ∃ segment ∈ segments, EncodesBreak segment := by
  have hslash : Utf8.lineFeed ≠ Path.slash := by decide
  cases hroute : u.route with
  | free text => simp [filePath?, hroute]
  | rooted segments =>
    have hvisible : ∀ segment ∈ segments, Visible segment.toList := by
      have hsegments := h.route
      rwa [hroute] at hsegments
    have hbytes : Utf8.lineFeed ∈ segments.flatMap (fun s => Path.slash :: decode s) ↔
        ∃ segment ∈ segments, EncodesBreak segment := by
      simp only [List.mem_flatMap, List.mem_cons, hslash, false_or]
      exact exists_congr fun segment => and_congr_right fun hmem =>
        lineFeed_mem_decode_iff (hvisible segment hmem)
    have hpath (bytes : List UInt8) : Utf8.lineFeed ∈
        (if endsInDrive bytes then bytes ++ [Path.slash] else bytes) ↔ Utf8.lineFeed ∈ bytes := by
      split <;> simp [hslash]
    simp only [Route.rooted.injEq, exists_eq_left', ← hbytes]
    cases segments with
    | nil => simp [filePath?, hroute]
    | cons first more =>
      simp only [filePath?, hroute, Option.ite_none_right_eq_some, Option.some.injEq]
      constructor
      · rintro ⟨_, ⟨hlocal, rfl⟩, hmem⟩
        exact ⟨hlocal, (hpath _).mp hmem⟩
      · rintro ⟨hlocal, hmem⟩
        exact ⟨_, ⟨hlocal, rfl⟩, (hpath _).mpr hmem⟩

end Url

/-! ## Notices -/

namespace EngineError

theorem message?_eq_none_iff {e : EngineError} :
    e.message? = none ↔ e = .lint none ∨ e = .raised none := by
  cases e <;> simp [message?]

/-- **When a notice has a line break in it.** -/
theorem lineFeed_mem_notice_iff {s : String} {u : Url} (h : Url.parse s = .ok u)
    (e : EngineError) : '\n' ∈ (e.notice u).toList ↔
      (e = .lint none ∨ e = .raised none) ∧
        (u.host = none ∨ u.host = some "" ∨ u.host = some "localhost") ∧
        ∃ segments, u.route = .rooted segments ∧
          ∃ segment ∈ segments, Url.EncodesBreak segment := by
  have hvisible := Url.isVisible_of_parse h
  rw [← message?_eq_none_iff, ← Url.lineFeed_mem_filePath_iff hvisible]
  cases hmessage : e.message? with
  | some message =>
    have hline : '\n' ∉ withoutMark (oneLine message.toList) := fun hmem =>
      lineFeed_notMem_oneLine _ ((withoutMark_suffix _).subset hmem)
    simpa [EngineError.notice, hmessage] using hline
  | none =>
    have hwords : '\n' ∉ "An unknown error occurred while validating file: ".toList := by decide
    simp only [EngineError.notice, hmessage, String.toList_append, List.mem_append, hwords,
      false_or, true_and]
    cases hpath : u.filePath? with
    | none => simpa [Url.place, hpath] using hvisible.text.lineFeed_notMem
    | some path => simp [Url.place, hpath, Path.text, Utf8.lineFeed_mem_lossy_iff]

/-! A file whose name has an encoded line break in it. -/

/-- The URL of such a file. -/
def brokenName : Url :=
  ⟨"file", "", "", some "", none, .rooted ["a%0Ab.js"], none, none⟩

theorem lineFeed_mem_notice_brokenName : Url.parse "file:///a%0Ab.js" = .ok brokenName ∧
    '\n' ∈ ((lint none).notice brokenName).toList := by
  have hparse : Url.parse "file:///a%0Ab.js" = .ok brokenName := rfl
  refine ⟨hparse, (lineFeed_mem_notice_iff hparse (.lint none)).mpr ?_⟩
  exact ⟨.inl rfl, .inr (.inl rfl), _, rfl, _, List.mem_singleton.mpr rfl, .inl ⟨['a'], _, rfl⟩⟩

/-- **A notice need not be one line**: the one of a failure without words is not, for a file
whose name has a line break in it. -/
theorem notice_of_two_lines : ¬ ∀ (s : String) (u : Url) (e : EngineError),
    Url.parse s = .ok u → '\n' ∉ (e.notice u).toList := by
  intro hall
  have hone := hall "file:///a%0Ab.js" brokenName (.lint none) rfl
  exact hone (by decide)

end EngineError

end LintServer
