import LintServer.Text.Utf8

/-! # Bytes and characters

A character is read back from its bytes, whatever follows them (`pieces_encodeChar`), and
a stretch of bytes that is read as a character is how that character is written
(`encode_pieces`).  So a text has one spelling in bytes, and reading bytes strictly is no
more and no less than undoing that spelling (`string?_eq_some_iff`).
-/
namespace LintServer.Utf8

/-! ## Bytes as numbers -/

theorem toNat_ofNat {n : Nat} (h : n < 0xD800 ∨ 0xDFFF < n ∧ n < 0x110000) :
    (Char.ofNat n).toNat = n := by
  rw [Char.ofNat, dif_pos h]
  rfl

theorem toNat_byte {n : Nat} (h : n < 256) : (UInt8.ofNat n).toNat = n := by
  rw [UInt8.toNat_ofNat', Nat.mod_eq_of_lt h]

theorem eq_ofNat {b : UInt8} {n : Nat} (h : b.toNat = n) : UInt8.ofNat n = b := by
  rw [← h, UInt8.ofNat_toNat]

/-- The first bytes of characters of each length. -/
theorem width_cases (a : UInt8) : width a = 1 ∧ a.toNat < 0x80 ∨
    width a = 2 ∧ 0xC2 ≤ a.toNat ∧ a.toNat < 0xE0 ∨
    width a = 3 ∧ 0xE0 ≤ a.toNat ∧ a.toNat < 0xF0 ∨
    width a = 4 ∧ 0xF0 ≤ a.toNat ∧ a.toNat < 0xF5 ∨
    width a = 0 ∧ (0x80 ≤ a.toNat ∧ a.toNat < 0xC2 ∨ 0xF5 ≤ a.toNat) := by
  have h80 : (0x80 : UInt8).toNat = 0x80 := rfl
  have hc2 : (0xC2 : UInt8).toNat = 0xC2 := rfl
  have he0 : (0xE0 : UInt8).toNat = 0xE0 := rfl
  have hf0 : (0xF0 : UInt8).toNat = 0xF0 := rfl
  have hf5 : (0xF5 : UInt8).toNat = 0xF5 := rfl
  unfold width
  simp only [UInt8.lt_iff_toNat_lt]
  repeat' split
  all_goals omega

theorem width_one {a : UInt8} : width a = 1 ↔ a.toNat < 0x80 := by
  have := width_cases a
  omega

theorem width_two {a : UInt8} : width a = 2 ↔ 0xC2 ≤ a.toNat ∧ a.toNat < 0xE0 := by
  have := width_cases a
  omega

theorem width_three {a : UInt8} : width a = 3 ↔ 0xE0 ≤ a.toNat ∧ a.toNat < 0xF0 := by
  have := width_cases a
  omega

theorem width_four {a : UInt8} : width a = 4 ↔ 0xF0 ≤ a.toNat ∧ a.toNat < 0xF5 := by
  have := width_cases a
  omega

theorem isTail_iff {b : UInt8} : isTail b = true ↔ 0x80 ≤ b.toNat ∧ b.toNat ≤ 0xBF := by
  simp [isTail, UInt8.le_iff_toNat_le]

/-- The second bytes that may follow a first byte. -/
theorem fits_iff {a b : UInt8} : fits a b = true ↔ 0x80 ≤ b.toNat ∧ b.toNat ≤ 0xBF ∧
    (a.toNat = 0xE0 → 0xA0 ≤ b.toNat) ∧ (a.toNat = 0xED → b.toNat ≤ 0x9F) ∧
    (a.toNat = 0xF0 → 0x90 ≤ b.toNat) ∧ (a.toNat = 0xF4 → b.toNat ≤ 0x8F) := by
  unfold fits
  simp only [← UInt8.toNat_inj, UInt8.le_iff_toNat_le, isTail, UInt8.reduceToNat]
  repeat' split
  all_goals simp only [Bool.and_eq_true, decide_eq_true_eq]
  all_goals omega

/-! ## One character -/

theorem pieces_one {a : UInt8} (rest : List UInt8) (ha : width a = 1) :
    pieces (a :: rest) = some (Char.ofNat a.toNat) :: pieces rest := by
  rw [pieces.eq_def]
  simp only [ha]

theorem pieces_two {a b : UInt8} (rest : List UInt8) (ha : width a = 2) (hb : isTail b = true) :
    pieces (a :: b :: rest) =
      some (Char.ofNat ((a.toNat - 0xC0) * 64 + low b)) :: pieces rest := by
  rw [pieces.eq_def]
  simp only [ha, hb, if_true]

theorem pieces_three {a b c : UInt8} (rest : List UInt8) (ha : width a = 3) (hb : fits a b = true)
    (hc : isTail c = true) : pieces (a :: b :: c :: rest) =
      some (Char.ofNat ((a.toNat - 0xE0) * 4096 + low b * 64 + low c)) :: pieces rest := by
  rw [pieces.eq_def]
  simp only [ha, hb, hc, if_true]

theorem pieces_four {a b c d : UInt8} (rest : List UInt8) (ha : width a = 4) (hb : fits a b = true)
    (hc : isTail c = true) (hd : isTail d = true) : pieces (a :: b :: c :: d :: rest) =
      some (Char.ofNat ((a.toNat - 0xF0) * 262144 + low b * 4096 + low c * 64 + low d)) ::
        pieces rest := by
  rw [pieces.eq_def]
  simp only [ha, hb, hc, hd, if_true]

/-- **A character is read back from its bytes**, whatever follows them. -/
theorem pieces_encodeChar (c : Char) (rest : List UInt8) :
    pieces (encodeChar c ++ rest) = some c :: pieces rest := by
  have hvalid : c.toNat < 0xD800 ∨ 0xDFFF < c.toNat ∧ c.toNat < 0x110000 := c.valid
  have hread {n : Nat} (h : n = c.toNat) : Char.ofNat n = c := by rw [h, Char.ofNat_toNat]
  unfold encodeChar
  dsimp only
  generalize hn : c.toNat = n at hvalid hread
  -- a case for each number of bytes; in each, the bytes are known by their values alone
  split
  · have ha := toNat_byte (show n < 256 by omega)
    have hw : width (UInt8.ofNat n) = 1 := width_one.mpr (by omega)
    rw [List.cons_append, List.nil_append, pieces_one rest hw, ha, hread rfl]
  · split
    · have ha := toNat_byte (show 0xC0 + n / 64 < 256 by omega)
      have hb := toNat_byte (show 0x80 + n % 64 < 256 by omega)
      generalize UInt8.ofNat (0xC0 + n / 64) = a at ha ⊢
      generalize UInt8.ofNat (0x80 + n % 64) = b at hb ⊢
      have hw : width a = 2 := width_two.mpr (by omega)
      have ht : isTail b = true := isTail_iff.mpr (by omega)
      rw [List.cons_append, List.cons_append, List.nil_append, pieces_two rest hw ht]
      rw [hread (by unfold low; omega)]
    · split
      · have ha := toNat_byte (show 0xE0 + n / 4096 < 256 by omega)
        have hb := toNat_byte (show 0x80 + n / 64 % 64 < 256 by omega)
        have hc := toNat_byte (show 0x80 + n % 64 < 256 by omega)
        generalize UInt8.ofNat (0xE0 + n / 4096) = a at ha ⊢
        generalize UInt8.ofNat (0x80 + n / 64 % 64) = b at hb ⊢
        generalize UInt8.ofNat (0x80 + n % 64) = d at hc ⊢
        have hw : width a = 3 := width_three.mpr (by omega)
        have hf : fits a b = true := fits_iff.mpr (by omega)
        have ht : isTail d = true := isTail_iff.mpr (by omega)
        simp only [List.cons_append, List.nil_append]
        rw [pieces_three rest hw hf ht, hread (by unfold low; omega)]
      · have ha := toNat_byte (show 0xF0 + n / 262144 < 256 by omega)
        have hb := toNat_byte (show 0x80 + n / 4096 % 64 < 256 by omega)
        have hc := toNat_byte (show 0x80 + n / 64 % 64 < 256 by omega)
        have hd := toNat_byte (show 0x80 + n % 64 < 256 by omega)
        generalize UInt8.ofNat (0xF0 + n / 262144) = a at ha ⊢
        generalize UInt8.ofNat (0x80 + n / 4096 % 64) = b at hb ⊢
        generalize UInt8.ofNat (0x80 + n / 64 % 64) = d at hc ⊢
        generalize UInt8.ofNat (0x80 + n % 64) = f at hd ⊢
        have hw : width a = 4 := width_four.mpr (by omega)
        have hf : fits a b = true := fits_iff.mpr (by omega)
        have ht : isTail d = true := isTail_iff.mpr (by omega)
        have ht' : isTail f = true := isTail_iff.mpr (by omega)
        simp only [List.cons_append, List.nil_append]
        rw [pieces_four rest hw hf ht ht', hread (by unfold low; omega)]

/-! The bytes that are read as a character are that character's. -/

theorem encodeChar_one {a : UInt8} (ha : width a = 1) : encodeChar (Char.ofNat a.toNat) = [a] := by
  have hw := width_one.mp ha
  have hn : (Char.ofNat a.toNat).toNat = a.toNat := toNat_ofNat (by omega)
  unfold encodeChar
  dsimp only
  rw [hn, if_pos (by omega), UInt8.ofNat_toNat]

theorem encodeChar_two {a b : UInt8} (ha : width a = 2) (hb : isTail b = true) :
    encodeChar (Char.ofNat ((a.toNat - 0xC0) * 64 + low b)) = [a, b] := by
  have hw := width_two.mp ha
  have ht := isTail_iff.mp hb
  unfold low
  have hn : (Char.ofNat ((a.toNat - 0xC0) * 64 + (b.toNat - 0x80))).toNat = _ :=
    toNat_ofNat (by omega)
  unfold encodeChar
  dsimp only
  rw [hn, if_neg (by omega), if_pos (by omega), eq_ofNat (b := a) (by omega),
    eq_ofNat (b := b) (by omega)]

theorem encodeChar_three {a b c : UInt8} (ha : width a = 3) (hb : fits a b = true)
    (hc : isTail c = true) :
    encodeChar (Char.ofNat ((a.toNat - 0xE0) * 4096 + low b * 64 + low c)) = [a, b, c] := by
  have hw := width_three.mp ha
  have hf := fits_iff.mp hb
  have ht := isTail_iff.mp hc
  unfold low
  have hn : (Char.ofNat ((a.toNat - 0xE0) * 4096 + (b.toNat - 0x80) * 64 +
    (c.toNat - 0x80))).toNat = _ := toNat_ofNat (by omega)
  unfold encodeChar
  dsimp only
  rw [hn, if_neg (by omega), if_neg (by omega), if_pos (by omega), eq_ofNat (b := a) (by omega),
    eq_ofNat (b := b) (by omega), eq_ofNat (b := c) (by omega)]

theorem encodeChar_four {a b c d : UInt8} (ha : width a = 4) (hb : fits a b = true)
    (hc : isTail c = true) (hd : isTail d = true) :
    encodeChar (Char.ofNat ((a.toNat - 0xF0) * 262144 + low b * 4096 + low c * 64 + low d)) =
      [a, b, c, d] := by
  have hw := width_four.mp ha
  have hf := fits_iff.mp hb
  have ht := isTail_iff.mp hc
  have ht' := isTail_iff.mp hd
  unfold low
  have hn : (Char.ofNat ((a.toNat - 0xF0) * 262144 + (b.toNat - 0x80) * 4096 +
    (c.toNat - 0x80) * 64 + (d.toNat - 0x80))).toNat = _ := toNat_ofNat (by omega)
  unfold encodeChar
  dsimp only
  rw [hn, if_neg (by omega), if_neg (by omega), if_neg (by omega), eq_ofNat (b := a) (by omega),
    eq_ofNat (b := b) (by omega), eq_ofNat (b := c) (by omega), eq_ofNat (b := d) (by omega)]

/-! ## Texts -/

theorem encode_append (cs ds : List Char) : encode (cs ++ ds) = encode cs ++ encode ds :=
  List.flatMap_append

theorem encode_cons (c : Char) (cs : List Char) : encode (c :: cs) = encodeChar c ++ encode cs :=
  rfl

theorem pieces_encode (cs : List Char) : pieces (encode cs) = cs.map some := by
  induction cs with
  | nil => simp [encode, pieces]
  | cons c cs ih =>
    rw [encode, List.flatMap_cons, pieces_encodeChar, List.map_cons, ← ih]
    rfl

/-- Bytes without a faulty stretch are the bytes of the characters in them. -/
theorem encode_pieces {bytes : List UInt8} {cs : List Char} (h : pieces bytes = cs.map some) :
    bytes = encode cs := by
  -- the case of a stretch that is read as `c`, with the bytes `stretch`
  have hread {c : Char} {stretch rest : List UInt8} {cs : List Char} (hc : encodeChar c = stretch)
      (ih : ∀ {cs : List Char}, pieces rest = cs.map some → rest = encode cs)
      (h : some c :: pieces rest = cs.map some) : stretch ++ rest = encode cs := by
    cases cs with
    | nil => cases h
    | cons d cs =>
      obtain ⟨hd, hrest⟩ := List.cons.inj h
      cases hd
      rw [ih hrest, ← hc]
      rfl
  -- a faulty stretch is no character
  have hfault {ps : List (Option Char)} {cs : List Char} (h : none :: ps = cs.map some) :
      False := by
    cases cs <;> simp at h
  fun_induction pieces bytes generalizing cs with
  | case1 => cases cs <;> simp_all [encode]
  | case2 a rest ha ih => exact hread (encodeChar_one ha) ih h
  | case3 a ha b rest hb ih => exact hread (encodeChar_two ha hb) ih h
  | case6 a ha b hb c rest hc ih => exact hread (encodeChar_three ha hb hc) ih h
  | case11 a ha b hb c hc d rest hd ih => exact hread (encodeChar_four ha hb hc hd) ih h
  | _ => exact (hfault h).elim

theorem mapM_id_eq_some_iff {ps : List (Option Char)} {cs : List Char} :
    ps.mapM id = some cs ↔ ps = cs.map some := by
  induction ps generalizing cs with
  | nil => cases cs <;> simp
  | cons p ps ih =>
    cases p with
    | none => cases cs <;> simp
    | some c =>
      simp only [List.mapM_cons, id_eq, Option.bind_eq_bind, Option.bind_some,
        Option.bind_eq_some_iff, Option.pure_def, Option.some.injEq, ih]
      constructor
      · rintro ⟨ds, rfl, rfl⟩
        rfl
      · intro h
        cases cs with
        | nil => cases h
        | cons d ds =>
          obtain ⟨hd, hds⟩ := List.cons.inj h
          cases hd
          exact ⟨ds, hds, rfl⟩

theorem decode?_eq_some_iff {bytes : List UInt8} {cs : List Char} :
    decode? bytes = some cs ↔ bytes = encode cs := by
  rw [decode?, mapM_id_eq_some_iff]
  constructor
  · exact encode_pieces
  · rintro rfl
    exact pieces_encode cs

/-- **Reading bytes strictly undoes the one spelling a text has.** -/
theorem string?_eq_some_iff {bytes : List UInt8} {s : String} :
    string? bytes = some s ↔ bytes = ofString s := by
  rw [string?, Option.map_eq_some_iff, ofString, ← decode?_eq_some_iff]
  constructor
  · rintro ⟨cs, hcs, rfl⟩
    rw [hcs, String.toList_ofList]
  · intro h
    exact ⟨s.toList, h, String.ofList_toList⟩

end LintServer.Utf8
