import LintServer.Json.Record
import LintServer.Proofs.Json.Passing

/-! # Reading records of one field

A record is written as an array of at most one item or as an object in which its field stands
at most once.  The members of other keys are passed over, so only their form counts.  The
reader takes exactly such words (`Record.reads`), if the field's reader takes the words of `P`.
-/
namespace LintServer.Json
open Reader Grammar

/-- A member of a record: its field with a word of `P`, or another one. -/
def Slot {α : Type} (field : String) (P : List UInt8 → α → Prop) (key : String)
    (w : List UInt8) : Option α → Prop
  | some v => key = field ∧ P w v
  | none => key ≠ field ∧ Passable w

namespace Record
variable {α : Type} (record : Record α)

/-- The field of a record, from all the values that were given for it. -/
def settle : List α → Option α
  | [] => record.absent
  | [v] => some v
  | _ :: _ :: _ => none

/-- **How a record is written**, with its field as `P` tells. -/
inductive Written (P : List UInt8 → α → Prop) : List UInt8 → α → Prop
  | array {w : List UInt8} {vs : List α} {v : α} : Chain P true w vs →
      record.settle vs = some v → Written P (91 :: (w ++ [93])) v
  | object {w : List UInt8} {ms : List (String × Option α)} {v : α} :
      Chain (Member Text (Slot record.field P)) true w ms →
      record.settle (ms.filterMap Prod.snd) = some v → Written P (123 :: (w ++ [125])) v

variable {record} {P : List UInt8 → α → Prop} {room : Nat}

/-! ## Objects -/

/-- What a step of the loop over members does. -/
theorem readMembers_succ {fuel : Nat} {first : Bool} {seen : Option α} {s rest : List UInt8}
    {v : α} :
    record.readMembers room (fuel + 1) first seen s = .ok (v, rest) ↔
      (∃ b, Blank b ∧ s = b ++ 125 :: rest ∧ record.settle seen.toList = some v) ∨
      ∃ sep raw key b t, Separator first sep ∧ Text raw key ∧ Blank b ∧
        s = sep ++ 34 :: (raw ++ 34 :: (b ++ 58 :: t)) ∧
        ((key = record.field ∧ seen = none ∧ ∃ x s', record.read room t = .ok (x, s') ∧
          record.readMembers room fuel false (some x) s' = .ok (v, rest)) ∨
        (key ≠ record.field ∧ ∃ s', skip t = .ok s' ∧
          record.readMembers room fuel false seen s' = .ok (v, rest))) := by
  rw [readMembers]
  constructor
  · intro h
    obtain ⟨found, hkey, hnext⟩ := bind_eq_ok_iff.mp h
    cases found with
    | inr rest' =>
      obtain ⟨b, hb, rfl⟩ := nextKey_eq_inr_iff.mp hkey
      left
      dsimp only at hnext
      split at hnext
      next _ _ x =>
        obtain ⟨rfl, rfl⟩ : x = v ∧ rest' = rest := by simpa using hnext
        exact ⟨b, hb, rfl, rfl⟩
      next x habsent =>
        obtain ⟨rfl, rfl⟩ : x = v ∧ rest' = rest := by simpa using hnext
        exact ⟨b, hb, rfl, habsent⟩
      next => cases hnext
    | inl t =>
      obtain ⟨sep, hsep, rfl⟩ := nextKey_eq_inl_iff.mp hkey
      obtain ⟨⟨key, t₁⟩, htext, hafter⟩ := bind_eq_ok_iff.mp hnext
      obtain ⟨raw, rfl, hraw⟩ := text_eq_ok_iff.mp htext
      right
      dsimp only at hafter
      split at hafter
      next hfield =>
        split at hafter
        next => cases hafter
        next hseen =>
          obtain ⟨t₂, hcolon, hvalue⟩ := bind_eq_ok_iff.mp hafter
          obtain ⟨b, hb, rfl⟩ := colon_eq_ok_iff.mp hcolon
          obtain ⟨⟨x, s'⟩, hx, hmore⟩ := bind_eq_ok_iff.mp hvalue
          exact ⟨sep, raw, key, b, t₂, hsep, hraw, hb, rfl,
            .inl ⟨hfield, by simpa using hseen, x, s', hx, hmore⟩⟩
      next hfield =>
        obtain ⟨t₂, hcolon, hvalue⟩ := bind_eq_ok_iff.mp hafter
        obtain ⟨b, hb, rfl⟩ := colon_eq_ok_iff.mp hcolon
        obtain ⟨s', hskip, hmore⟩ := bind_eq_ok_iff.mp hvalue
        exact ⟨sep, raw, key, b, t₂, hsep, hraw, hb, rfl, .inr ⟨hfield, s', hskip, hmore⟩⟩
  · rintro (⟨b, hb, rfl, hsettle⟩ | ⟨sep, raw, key, b, t, hsep, hraw, hb, rfl, hslot⟩)
    · refine bind_eq_ok_iff.mpr ⟨_, nextKey_eq_inr_iff.mpr ⟨b, hb, rfl⟩, ?_⟩
      cases seen with
      | some x =>
        obtain rfl : x = v := by simpa [settle] using hsettle
        rfl
      | none =>
        have habsent : record.absent = some v := hsettle
        simp only [habsent]
    · refine bind_eq_ok_iff.mpr ⟨_, nextKey_eq_inl_iff.mpr ⟨sep, hsep, rfl⟩, ?_⟩
      refine bind_eq_ok_iff.mpr ⟨_, text_eq_ok_iff.mpr ⟨raw, rfl, hraw⟩, ?_⟩
      obtain ⟨hfield, rfl, x, s', hx, hmore⟩ | ⟨hfield, s', hskip, hmore⟩ := hslot
      · simp only [if_pos hfield, Option.isSome_none, Bool.false_eq_true, if_false]
        refine bind_eq_ok_iff.mpr ⟨_, colon_eq_ok_iff.mpr ⟨b, hb, rfl⟩, ?_⟩
        exact bind_eq_ok_iff.mpr ⟨_, hx, hmore⟩
      · simp only [if_neg hfield]
        refine bind_eq_ok_iff.mpr ⟨_, colon_eq_ok_iff.mpr ⟨b, hb, rfl⟩, ?_⟩
        exact bind_eq_ok_iff.mpr ⟨_, hskip, hmore⟩

theorem readMembers_sound (hread : Reads (record.read room) P) {fuel : Nat} {first : Bool}
    {seen : Option α} {s rest : List UInt8} {v : α}
    (h : record.readMembers room fuel first seen s = .ok (v, rest)) :
    ∃ w ms, s = w ++ 125 :: rest ∧ Chain (Member Text (Slot record.field P)) first w ms ∧
      record.settle (seen.toList ++ ms.filterMap Prod.snd) = some v := by
  induction fuel generalizing first seen s with
  | zero => cases h
  | succ fuel ih =>
    obtain ⟨b, hb, rfl, hsettle⟩ | ⟨sep, raw, key, b, t, hsep, hraw, hb, rfl, hslot⟩ :=
      readMembers_succ.mp h
    · exact ⟨b, [], rfl, .done hb, by simpa using hsettle⟩
    · obtain ⟨hfield, rfl, x, s', hx, hmore⟩ | ⟨hfield, s', hskip, hmore⟩ := hslot
      · obtain ⟨b', w, hb', rfl, hw⟩ := hread.sound hx
        obtain ⟨w', ms, rfl, hw', hsettle⟩ := ih hmore
        exact ⟨_, (key, some x) :: ms, by simp, .item hsep (.intro hraw hb hb' ⟨hfield, hw⟩) hw',
          by simpa using hsettle⟩
      · obtain ⟨b', w, hb', rfl, hw⟩ := skip_sound hskip
        obtain ⟨w', ms, rfl, hw', hsettle⟩ := ih hmore
        exact ⟨_, (key, none) :: ms, by simp, .item hsep (.intro hraw hb hb' ⟨hfield, hw⟩) hw',
          by simpa using hsettle⟩

theorem readMembers_complete (hread : Reads (record.read room) P) {first : Bool}
    {w : List UInt8} {ms : List (String × Option α)}
    (h : Chain (Member Text (Slot record.field P)) first w ms) {fuel : Nat}
    (hfuel : w.length < fuel) {seen : Option α} {v : α}
    (hsettle : record.settle (seen.toList ++ ms.filterMap Prod.snd) = some v)
    (rest : List UInt8) :
    record.readMembers room fuel first seen (w ++ 125 :: rest) = .ok (v, rest) := by
  induction h generalizing fuel seen with
  | done hb =>
    obtain ⟨fuel, rfl⟩ := Nat.exists_eq_succ_of_ne_zero (Nat.ne_zero_of_lt hfuel)
    exact readMembers_succ.mpr (.inl ⟨_, hb, rfl, by simpa using hsettle⟩)
  | item hsep hw hmore ih =>
    rename_i sep w more m ms
    obtain ⟨fuel, rfl⟩ := Nat.exists_eq_succ_of_ne_zero (Nat.ne_zero_of_lt hfuel)
    obtain ⟨hkey, hb, hb', hw⟩ := hw
    rename_i raw b b' w key x
    simp only [List.length_append, List.length_cons] at hfuel
    have hstop : Stops (more ++ 125 :: rest) := hmore.stops (by simp [Stops])
    refine readMembers_succ.mpr (.inr ⟨sep, raw, key, b, b' ++ (w ++ (more ++ 125 :: rest)), hsep,
      hkey, hb, by simp, ?_⟩)
    cases x with
    | some x =>
      obtain ⟨hfield, hw⟩ := hw
      -- a second value for the field would not settle
      obtain rfl : seen = none := by
        cases seen with
        | none => rfl
        | some y => simp [settle] at hsettle
      exact .inl ⟨hfield, rfl, x, _, hread.complete hb' hw hstop,
        ih (by omega) (by simpa using hsettle)⟩
    | none =>
      obtain ⟨hfield, hw⟩ := hw
      exact .inr ⟨hfield, _, skip_complete hb' hw hstop, ih (by omega) (by simpa using hsettle)⟩

/-! ## Arrays -/

theorem closeArray_eq_ok_iff {s rest : List UInt8} :
    closeArray s = .ok rest ↔ ∃ b, Blank b ∧ s = b ++ 93 :: rest := by
  refine byte_eq_ok_iff (by decide) (by simp [next]) fun b r t h => ?_
  split at h
  · split at h <;> cases h
  · cases h

theorem readItem_sound (hread : Reads (record.read room) P) {s rest : List UInt8} {v : α}
    (h : record.readItem room s = .ok (v, rest)) :
    ∃ w vs, s = w ++ 93 :: rest ∧ Chain P true w vs ∧ record.settle vs = some v := by
  unfold readItem at h
  split at h
  next => cases h
  next c r hs =>
    obtain ⟨b, hb, rfl, -⟩ := exists_blank_cons hs
    split at h
    next hc =>
      split at h
      next x habsent =>
        obtain ⟨rfl, rfl⟩ : x = v ∧ r = rest := by simpa using h
        exact ⟨b, [], by rw [hc], .done hb, habsent⟩
      next => cases h
    next =>
      obtain ⟨⟨x, s'⟩, hx, hnext⟩ := bind_eq_ok_iff.mp h
      obtain ⟨rest', hclose, hok⟩ := bind_eq_ok_iff.mp hnext
      cases hok
      obtain ⟨b', w, hb', hw', hw⟩ := hread.sound hx
      obtain ⟨b'', hb'', rfl⟩ := closeArray_eq_ok_iff.mp hclose
      rw [hw']
      exact ⟨_, [v], by simp, .item (.start (hb.append hb')) hw (.done hb''), rfl⟩

theorem readItem_complete (hread : Reads (record.read room) P) {w : List UInt8} {vs : List α}
    (h : Chain P true w vs) {v : α} (hsettle : record.settle vs = some v) (rest : List UInt8) :
    record.readItem room (w ++ 93 :: rest) = .ok (v, rest) := by
  unfold readItem
  cases h with
  | done hb =>
    have habsent : record.absent = some v := hsettle
    rw [skipBlank_append hb, skipBlank_cons (by decide)]
    simp [habsent]
  | item hsep hw hmore =>
    cases hmore with
    | item _ _ _ => cases hsettle
    | done hb' =>
      rename_i b w b' v'
      obtain rfl : v' = v := by simpa [settle] using hsettle
      have hstop : Stops (b' ++ 93 :: rest) := Stops.blank_append hb' (by simp [Stops])
      have hx := hread.complete blank_nil hw hstop
      obtain ⟨c, r, rfl, hblank, hc⟩ := hread.opens hw
      cases hsep with
      | start hb =>
        rw [List.append_assoc, skipBlank_append hb, List.append_assoc, List.cons_append,
          skipBlank_cons hblank]
        simp only [if_neg hc]
        refine bind_eq_ok_iff.mpr ⟨_, hx, ?_⟩
        exact bind_eq_ok_iff.mpr ⟨_, closeArray_eq_ok_iff.mpr ⟨b', hb', rfl⟩, rfl⟩

/-! ## Records -/

theorem mismatch_ne_ok {β : Type} {expected : String} {s : List UInt8} {y : β} :
    mismatch expected s ≠ .ok y := by
  intro h
  obtain ⟨_, -, hhere⟩ := bind_eq_ok_iff.mp h
  cases hhere

/-- **Records are read** as they are written. -/
theorem reads (hread : Reads (record.read room) P) :
    Reads (record.readFrom (room + 1)) (record.Written P) where
  opens h := by
    cases h with
    | array _ _ => exact ⟨91, _, rfl, by decide, by decide⟩
    | object _ _ => exact ⟨123, _, rfl, by decide, by decide⟩
  sound {s rest v} h := by
    unfold readFrom at h
    dsimp only at h
    split at h
    next => cases h
    next c r hs =>
      obtain ⟨b, hb, rfl, -⟩ := exists_blank_cons hs
      split at h
      next hc =>
        obtain ⟨w, vs, rfl, hw, hsettle⟩ := readItem_sound hread h
        exact ⟨b, _, hb, by simp [hc], .array hw hsettle⟩
      next =>
        split at h
        next hc =>
          obtain ⟨w, ms, rfl, hw, hsettle⟩ := readMembers_sound hread h
          exact ⟨b, _, hb, by simp [hc], .object hw (by simpa using hsettle)⟩
        next => exact absurd h mismatch_ne_ok
  complete {b w rest v} hb hw _ := by
    unfold readFrom
    dsimp only
    cases hw with
    | array hw hsettle =>
      rw [skipBlank_append hb, List.cons_append, skipBlank_cons (by decide), List.append_assoc]
      exact readItem_complete hread hw hsettle rest
    | object hw hsettle =>
      rw [skipBlank_append hb, List.cons_append, skipBlank_cons (by decide), List.append_assoc]
      exact readMembers_complete hread hw (by simp) (by simpa using hsettle) rest

/-- A text is read as the one record it is. -/
theorem parse_eq_ok_iff (hread : Reads (record.read (depthLimit - 1)) P) {input : List UInt8}
    {v : α} : record.parse input = .ok v ↔ Entire (record.Written P) input v :=
  (reads hread).entire_iff

end Record

/-! ## Fields of which only a text counts -/

/-- A value of which only a text counts. -/
def IfText (room : Nat) (w : List UInt8) (m : Option String) : Prop :=
  ∃ v, Decodes room w v ∧ v.string? = m

theorem reads_textIfAny (room : Nat) : Reads (textIfAny room) (IfText room) :=
  (reads_decoded room).map Json.string?

/-! ## Truth values -/

theorem reads_truth : Reads truth fun w b => Scalar w (.bool b) where
  opens h := by
    cases h with
    | true => exact ⟨116, _, rfl, by decide, by decide⟩
    | false => exact ⟨102, _, rfl, by decide, by decide⟩
  sound {s rest v} h := by
    unfold truth at h
    dsimp only at h
    split at h
    next => cases h
    next c r hs =>
      obtain ⟨b, hb, rfl, -⟩ := exists_blank_cons hs
      split at h
      next hc =>
        obtain ⟨r, hword, hok⟩ := bind_eq_ok_iff.mp h
        cases hok
        exact ⟨b, _, hb, by rw [hc, word_eq_ok_iff.mp hword]; rfl, .true⟩
      next =>
        split at h
        next hc =>
          obtain ⟨r, hword, hok⟩ := bind_eq_ok_iff.mp h
          cases hok
          exact ⟨b, _, hb, by rw [hc, word_eq_ok_iff.mp hword]; rfl, .false⟩
        next => exact absurd h Record.mismatch_ne_ok
  complete {b w rest v} hb hw _ := by
    unfold truth
    cases hw with
    | true =>
      rw [skipBlank_append hb, List.cons_append, skipBlank_cons (by decide)]
      exact bind_eq_ok_iff.mpr ⟨rest, word_eq_ok_iff.mpr rfl, rfl⟩
    | false =>
      rw [skipBlank_append hb, List.cons_append, skipBlank_cons (by decide)]
      exact bind_eq_ok_iff.mpr ⟨rest, word_eq_ok_iff.mpr rfl, rfl⟩

end LintServer.Json
