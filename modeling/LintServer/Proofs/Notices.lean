import LintServer.Notice
import LintServer.Text.Utf8

/-! # Notices in order

The lines of `Notices` ascend, by code point (`ascending_foldl_add`) and so by the
bytes of UTF-8 (`Utf8.ofString_lt`), and there is only one way to put given lines in
order (`lines_unique`).  Words that are one line already, without a mark, become the line
as they are (`EngineError.notice_eq_self`).
-/
namespace LintServer

/-! ## The order of bytes -/

namespace Utf8

theorem cons_lt_cons {m n : Nat} {l l' : List UInt8} (hn : n < 256)
    (h : m < n ∨ m = n ∧ l < l') : UInt8.ofNat m :: l < UInt8.ofNat n :: l' := by
  rw [List.cons_lt_cons_iff]
  rcases h with hlt | ⟨rfl, hl⟩
  · refine Or.inl (UInt8.lt_iff_toNat_lt.mpr ?_)
    rw [UInt8.toNat_ofNat', UInt8.toNat_ofNat']
    omega
  · exact Or.inr ⟨rfl, hl⟩

/-! The bytes after the first, of numbers that agree in what stands before them. -/

theorem tail_lt {m n : Nat} (h : m < n) (hsame : m / 64 = n / 64) (l l' : List UInt8) :
    UInt8.ofNat (0x80 + m % 64) :: l < UInt8.ofNat (0x80 + n % 64) :: l' :=
  cons_lt_cons (by omega) (Or.inl (by omega))

theorem tails_lt {m n : Nat} (h : m < n) (hsame : m / 4096 = n / 4096) (l l' : List UInt8) :
    UInt8.ofNat (0x80 + m / 64 % 64) :: UInt8.ofNat (0x80 + m % 64) :: l <
      UInt8.ofNat (0x80 + n / 64 % 64) :: UInt8.ofNat (0x80 + n % 64) :: l' := by
  refine cons_lt_cons (by omega) ?_
  rcases Nat.lt_or_ge (m / 64) (n / 64) with hlt | hge
  · exact Or.inl (by omega)
  · exact Or.inr ⟨by omega, tail_lt h (by omega) l l'⟩

/-- A smaller character has smaller bytes, whatever follows: a longer character starts
with a greater byte, and of two of the same length the first bytes that differ decide. -/
theorem encodeChar_lt {c d : Char} (h : c < d) (l l' : List UInt8) :
    encodeChar c ++ l < encodeChar d ++ l' := by
  have hlt : c.toNat < d.toNat := h
  have hmax : d.toNat < 0x110000 := by
    have hvalid := d.valid
    simp only [UInt32.isValidChar, Nat.isValidChar] at hvalid
    change d.val.toNat < _
    omega
  unfold encodeChar
  generalize c.toNat = m at hlt ⊢
  generalize d.toNat = n at hlt hmax ⊢
  dsimp only
  split
  · split
    · exact cons_lt_cons (by omega) (Or.inl hlt)
    · split
      · exact cons_lt_cons (by omega) (Or.inl (by omega))
      · split <;> exact cons_lt_cons (by omega) (Or.inl (by omega))
  · rw [if_neg (show ¬ n < 0x80 by omega)]
    split
    · split
      · refine cons_lt_cons (by omega) ?_
        rcases Nat.lt_or_ge (m / 64) (n / 64) with hhead | hhead
        · exact Or.inl (by omega)
        · exact Or.inr ⟨by omega, tail_lt hlt (by omega) l l'⟩
      · split <;> exact cons_lt_cons (by omega) (Or.inl (by omega))
    · rw [if_neg (show ¬ n < 0x800 by omega)]
      split
      · split
        · refine cons_lt_cons (by omega) ?_
          rcases Nat.lt_or_ge (m / 4096) (n / 4096) with hhead | hhead
          · exact Or.inl (by omega)
          · exact Or.inr ⟨by omega, tails_lt hlt (by omega) l l'⟩
        · exact cons_lt_cons (by omega) (Or.inl (by omega))
      · rw [if_neg (show ¬ n < 0x10000 by omega)]
        refine cons_lt_cons (by omega) ?_
        rcases Nat.lt_or_ge (m / 262144) (n / 262144) with hhead | hhead
        · exact Or.inl (by omega)
        · refine Or.inr ⟨by omega, cons_lt_cons (by omega) ?_⟩
          rcases Nat.lt_or_ge (m / 4096) (n / 4096) with hnext | hnext
          · exact Or.inl (by omega)
          · exact Or.inr ⟨by omega, tails_lt hlt (by omega) l l'⟩

theorem encodeChar_ne_nil (c : Char) : encodeChar c ≠ [] := by
  unfold encodeChar
  dsimp only
  repeat' split
  all_goals simp

theorem encode_lt {cs ds : List Char} (h : cs < ds) : encode cs < encode ds := by
  induction cs generalizing ds with
  | nil =>
    cases ds with
    | nil => exact absurd h (List.lt_irrefl [])
    | cons d ds =>
      obtain ⟨b, more, hbytes⟩ := List.exists_cons_of_ne_nil (encodeChar_ne_nil d)
      simp only [encode, List.flatMap_cons, List.flatMap_nil, hbytes, List.cons_append]
      exact List.nil_lt_cons _ _
  | cons c cs ih =>
    cases ds with
    | nil => exact absurd h (List.not_lt_nil _)
    | cons d ds =>
      simp only [encode, List.flatMap_cons]
      rcases List.cons_lt_cons_iff.mp h with hlt | ⟨rfl, hrest⟩
      · exact encodeChar_lt hlt _ _
      · exact List.append_left_lt (ih hrest)

theorem ofString_lt {a b : String} (h : a < b) : ofString a < ofString b :=
  encode_lt (String.lt_iff.mp h)

end Utf8

/-! ## The order of lines -/

namespace Notices

theorem ascending_place {line : String} {lines : List String} (h : lines.Pairwise (· < ·)) :
    (place line lines).Pairwise (· < ·) := by
  induction lines with
  | nil => exact List.pairwise_singleton _ _
  | cons l more ih =>
    obtain ⟨hl, hmore⟩ := List.pairwise_cons.mp h
    unfold place
    split
    · rename_i hlt
      refine List.pairwise_cons.mpr ⟨?_, h⟩
      intro k hk
      rcases List.mem_cons.mp hk with rfl | hk
      · exact hlt
      · exact String.lt_trans hlt (hl k hk)
    · split
      · exact h
      · rename_i hnot hne
        have hgt : l < line :=
          Std.lt_of_le_of_ne (String.not_lt.mp hnot) fun heq => hne heq.symm
        refine List.pairwise_cons.mpr ⟨?_, ih hmore⟩
        intro k hk
        rcases mem_place.mp hk with rfl | hk
        · exact hgt
        · exact hl k hk

/-- **Lines that are added one by one ascend.** -/
theorem ascending_foldl_add (lines : List String) {notices : Notices}
    (h : notices.lines.Pairwise (· < ·)) : (lines.foldl add notices).lines.Pairwise (· < ·) := by
  induction lines generalizing notices with
  | nil => exact h
  | cons line more ih => exact ih (ascending_place h)

/-- Ascending lines are determined by which lines they are. -/
theorem lines_unique {lines lines' : List String} (h : lines.Pairwise (· < ·))
    (h' : lines'.Pairwise (· < ·)) (hmem : ∀ l, l ∈ lines ↔ l ∈ lines') : lines = lines' := by
  have hnodup {l : List String} (hl : l.Pairwise (· < ·)) : l.Nodup := by
    refine hl.imp ?_
    rintro a _ hlt rfl
    exact String.lt_irrefl a hlt
  have hperm := (List.perm_ext_iff_of_nodup (hnodup h) (hnodup h')).mpr hmem
  refine hperm.eq_of_pairwise ?_ h h'
  intro a b _ _ hab hba
  exact absurd (String.lt_trans hab hba) (String.lt_irrefl a)

end Notices

/-! ## Words that are told as they are -/

theorem oneLine_eq_self {cs : List Char} (h : '\n' ∉ cs) : oneLine cs = cs := by
  fun_induction oneLine cs with
  | case1 => rfl
  | case2 r ih => simp at h
  | case3 r ih => simp at h
  | case4 c r _ _ ih => rw [ih fun hmem => h (List.mem_cons_of_mem c hmem)]

theorem withoutMark_eq_self {cs : List Char} (h : ∀ r, cs ≠ 'C' :: r) : withoutMark cs = cs := by
  unfold withoutMark
  split
  · exact absurd rfl (h _)
  · rfl

/-- Words of one line without a mark are told as they are. -/
theorem EngineError.notice_eq_self {e : EngineError} {message : String} (u : Url)
    (h : e.message? = some message) (hline : '\n' ∉ message.toList)
    (hmark : ∀ r, message.toList ≠ 'C' :: r) : e.notice u = message := by
  rw [EngineError.notice, h]
  dsimp only
  rw [oneLine_eq_self hline, withoutMark_eq_self hmark, String.ofList_toList]

end LintServer
