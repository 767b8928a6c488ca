import LintServer.Proofs.Json.Values

/-! # Passing over values

A value that nobody wants is passed over: its form is looked at and nothing else.  What is
passed over is a value of any depth (`skip_sound`), and every value of the right form is passed
over, its numbers in range or not and its strings sound or not (`skip_complete`).

The three functions that pass over values, items and members call one another with less fuel.
What they take is told by `Passes`; the depth of a value is bounded by the fuel it took.
-/
namespace LintServer.Json.Reader
open Grammar

/-! ## Scalars -/

/-- Passes over a value without parts, from its first byte on. -/
def skipScalar (s : List UInt8) : Except Fault (List UInt8) :=
  match s with
  | [] => next .endOfValue []
  | b :: r =>
    if b = 110 then word [117, 108, 108] r
    else if b = 116 then word [114, 117, 101] r
    else if b = 102 then word [97, 108, 115, 101] r
    else if b = 45 then skipNumber r
    else if isDigit b then skipNumber s
    else if b = 34 then skipString r
    else next .expectedValue s

theorem skipScalar_sound {s rest : List UInt8} (h : skipScalar s = .ok rest) :
    ∃ w, s = w ++ rest ∧ ScalarForm w := by
  unfold skipScalar at h
  split at h
  next => cases h
  next b r =>
    split at h
    next hb => exact ⟨_, by rw [hb, word_eq_ok_iff.mp h]; rfl, .null⟩
    split at h
    next hb => exact ⟨_, by rw [hb, word_eq_ok_iff.mp h]; rfl, .true⟩
    split at h
    next hb => exact ⟨_, by rw [hb, word_eq_ok_iff.mp h]; rfl, .false⟩
    split at h
    next hb =>
      obtain ⟨w, l, hw, rfl⟩ := skipNumber_sound h
      exact ⟨45 :: w, by rw [hb]; rfl, .negative hw⟩
    split at h
    next =>
      obtain ⟨w, l, hw, hs⟩ := skipNumber_sound h
      exact ⟨w, hs, .number hw⟩
    split at h
    next hb =>
      obtain ⟨raw, rfl, hraw⟩ := skipString_eq_ok_iff.mp h
      exact ⟨34 :: (raw ++ [34]), by simp [hb], .string hraw⟩
    next => cases h

theorem skipScalar_complete {w rest : List UInt8} (h : ScalarForm w) (hrest : Stops rest) :
    skipScalar (w ++ rest) = .ok rest := by
  cases h with
  | null => rfl
  | true => rfl
  | false => rfl
  | number hw =>
    have hnumber := skipNumber_complete hw hrest
    obtain ⟨d, r, rfl, hd⟩ := hw.cons
    rw [List.cons_append] at hnumber ⊢
    rw [skipScalar, if_neg (ne_of_isDigit hd rfl), if_neg (ne_of_isDigit hd rfl),
      if_neg (ne_of_isDigit hd rfl), if_neg (ne_of_isDigit hd rfl), if_pos hd]
    exact hnumber
  | negative hw => exact skipNumber_complete hw hrest
  | string hraw =>
    rw [List.cons_append, List.append_assoc]
    exact skipString_eq_ok_iff.mpr ⟨_, rfl, hraw⟩

/-! ## Steps -/

theorem skipValue_succ (fuel : Nat) (s : List UInt8) :
    skipValue (fuel + 1) s =
      match skipBlank s with
      | [] => next .endOfValue []
      | b :: r =>
        if b = 91 then skipItems fuel true r
        else if b = 123 then skipMembers fuel true r
        else skipScalar (b :: r) := by
  rw [skipValue]
  generalize skipBlank s = t
  cases t with
  | nil => rfl
  | cons b r =>
    by_cases harray : b = 91
    · subst harray
      rfl
    · by_cases hobject : b = 123
      · subst hobject
        rfl
      · simp only [skipScalar, if_neg harray, if_neg hobject]

theorem skipValue_blank {fuel : Nat} {b t rest : List UInt8} (hb : Blank b)
    (h : skipValue fuel t = .ok rest) : skipValue fuel (b ++ t) = .ok rest := by
  cases fuel with
  | zero => cases h
  | succ fuel => rwa [skipValue_succ, skipBlank_append hb, ← skipValue_succ]

theorem skipItems_inv {fuel : Nat} {first : Bool} {s rest : List UInt8}
    (h : skipItems (fuel + 1) first s = .ok rest) :
    (∃ b, Blank b ∧ s = b ++ 93 :: rest) ∨
      ∃ sep t s', Separator first sep ∧ s = sep ++ t ∧ skipValue fuel t = .ok s' ∧
        skipItems fuel false s' = .ok rest := by
  rw [skipItems] at h
  split at h
  next => cases h
  next b r hs =>
    rw [hs] at h
    obtain ⟨pre, hpre, rfl, -⟩ := exists_blank_cons hs
    split at h
    next hb =>
      obtain rfl : r = rest := by simpa using h
      exact .inl ⟨pre, hpre, by rw [hb]⟩
    next =>
      right
      split at h
      next hfirst =>
        obtain ⟨s', hvalue, hmore⟩ := bind_eq_ok_iff.mp h
        exact ⟨pre, _, s', hfirst ▸ .start hpre, rfl, hvalue, hmore⟩
      next hfirst =>
        split at h
        next hcomma =>
          obtain ⟨s', hvalue, hmore⟩ := bind_eq_ok_iff.mp h
          refine ⟨pre ++ [44], r, s', ?_, by simp [hcomma], hvalue, hmore⟩
          rw [Bool.eq_false_iff.mpr hfirst]
          exact .comma hpre blank_nil
        next => cases h

theorem skipItems_done {b : List UInt8} (hb : Blank b) (fuel : Nat) (first : Bool)
    (rest : List UInt8) : skipItems (fuel + 1) first (b ++ 93 :: rest) = .ok rest := by
  rw [skipItems, skipBlank_append hb, skipBlank_cons (by decide)]
  simp

theorem skipItems_item {fuel : Nat} {first : Bool} {sep t s' rest : List UInt8}
    (hsep : Separator first sep) (ht : Opens t) (hvalue : skipValue fuel t = .ok s')
    (hmore : skipItems fuel false s' = .ok rest) :
    skipItems (fuel + 1) first (sep ++ t) = .ok rest := by
  obtain ⟨c, r, rfl, hblank, hc⟩ := ht
  rw [skipItems]
  cases hsep with
  | start hb =>
    rw [skipBlank_append hb, skipBlank_cons hblank]
    simp only [if_neg hc, if_true]
    exact bind_eq_ok_iff.mpr ⟨s', hvalue, hmore⟩
  | comma hb hb' =>
    rw [List.append_assoc, skipBlank_append hb, List.cons_append, skipBlank_cons (by decide)]
    exact bind_eq_ok_iff.mpr ⟨s', skipValue_blank hb' hvalue, hmore⟩

/-- What a step of the loop over members does. -/
theorem skipMembers_succ {fuel : Nat} {first : Bool} {s rest : List UInt8} :
    skipMembers (fuel + 1) first s = .ok rest ↔
      (∃ b, Blank b ∧ s = b ++ 125 :: rest) ∨
      ∃ sep raw b t s', Separator first sep ∧ EscapedForm raw ∧ Blank b ∧
        s = sep ++ 34 :: (raw ++ 34 :: (b ++ 58 :: t)) ∧ skipValue fuel t = .ok s' ∧
        skipMembers fuel false s' = .ok rest := by
  have hstep {t : List UInt8} :
      (do
        let s ← skipString t
        let s ← colon s
        let s ← skipValue fuel s
        skipMembers fuel false s) = .ok rest ↔
      ∃ raw b t' s', EscapedForm raw ∧ Blank b ∧ t = raw ++ 34 :: (b ++ 58 :: t') ∧
        skipValue fuel t' = .ok s' ∧ skipMembers fuel false s' = .ok rest := by
    constructor
    · intro h
      obtain ⟨t₁, hstring, hnext⟩ := bind_eq_ok_iff.mp h
      obtain ⟨t₂, hcolon, hnext⟩ := bind_eq_ok_iff.mp hnext
      obtain ⟨s', hvalue, hmore⟩ := bind_eq_ok_iff.mp hnext
      obtain ⟨raw, ht, hraw⟩ := skipString_eq_ok_iff.mp hstring
      obtain ⟨b, hb, ht₁⟩ := colon_eq_ok_iff.mp hcolon
      exact ⟨raw, b, t₂, s', hraw, hb, ht₁ ▸ ht, hvalue, hmore⟩
    · rintro ⟨raw, b, t', s', hraw, hb, rfl, hvalue, hmore⟩
      refine bind_eq_ok_iff.mpr ⟨_, skipString_eq_ok_iff.mpr ⟨raw, rfl, hraw⟩, ?_⟩
      refine bind_eq_ok_iff.mpr ⟨_, colon_eq_ok_iff.mpr ⟨b, hb, rfl⟩, ?_⟩
      exact bind_eq_ok_iff.mpr ⟨s', hvalue, hmore⟩
  rw [skipMembers]
  constructor
  · intro h
    dsimp only at h
    split at h
    next => cases h
    next c r hs =>
      obtain ⟨pre, hpre, rfl, -⟩ := exists_blank_cons hs
      rw [hs] at h
      split at h
      next hc =>
        obtain rfl : r = rest := by simpa using h
        exact .inl ⟨pre, hpre, by rw [hc]⟩
      next =>
        right
        split at h
        next => cases h
        next hcomma =>
          split at h
          next => cases h
          next q t ht =>
            split at h
            next hq =>
              obtain ⟨raw, b, t', s', hraw, hb, rfl, hrest⟩ := hstep.mp h
              cases first with
              | true =>
                obtain ⟨rfl, rfl⟩ := List.cons.inj ht
                exact ⟨pre, raw, b, t', s', .start hpre, hraw, hb, by rw [hq], hrest⟩
              | false =>
                obtain ⟨pre', hpre', rfl, -⟩ := exists_blank_cons ht
                obtain rfl : c = 44 := by simpa using hcomma
                exact ⟨pre ++ 44 :: pre', raw, b, t', s', .comma hpre hpre', hraw, hb,
                  by simp [hq], hrest⟩
            next => cases h
  · rintro (⟨b, hb, rfl⟩ | ⟨sep, raw, b, t, s', hsep, hraw, hb, rfl, hrest⟩)
    · rw [skipBlank_append hb, skipBlank_cons (by decide)]
      simp
    · have hread := hstep.mpr ⟨raw, b, t, s', hraw, hb, rfl, hrest⟩
      cases hsep with
      | start hpre =>
        rw [skipBlank_append hpre, skipBlank_cons (by decide)]
        exact hread
      | comma hpre hpre' =>
        rw [List.append_assoc, skipBlank_append hpre, List.cons_append, skipBlank_cons (by decide)]
        dsimp only
        rw [skipBlank_append hpre', skipBlank_cons (by decide)]
        exact hread

/-! ## Values -/

/-- What is passed over with so much fuel. -/
structure Passes (fuel : Nat) : Prop where
  value {s rest : List UInt8} : skipValue fuel s = .ok rest →
    ∃ b w, Blank b ∧ s = b ++ (w ++ rest) ∧ passing.Value fuel w ()
  items {first : Bool} {s rest : List UInt8} : skipItems fuel first s = .ok rest →
    ∃ w vs, s = w ++ 93 :: rest ∧ Chain (passing.Value fuel) first w vs
  members {first : Bool} {s rest : List UInt8} : skipMembers fuel first s = .ok rest →
    ∃ w ms, s = w ++ 125 :: rest ∧
      Chain (Member passing.key fun _ => passing.Value fuel) first w ms

theorem passes (fuel : Nat) : Passes fuel := by
  -- what was found with less fuel is no deeper, so it fits the depth of this step (`Value.succ`)
  induction fuel with
  | zero => constructor <;> intros <;> rename_i h <;> cases h
  | succ fuel ih =>
    refine ⟨fun {s rest} h => ?_, fun {first s rest} h => ?_, fun {first s rest} h => ?_⟩
    · rw [skipValue_succ] at h
      split at h
      next => cases h
      next c r hs =>
        obtain ⟨b, hb, rfl, -⟩ := exists_blank_cons hs
        split at h
        next hc =>
          obtain ⟨w, vs, rfl, hw⟩ := ih.items h
          exact ⟨b, 91 :: (w ++ [93]), hb, by simp [hc], .array hw⟩
        next =>
          split at h
          next hc =>
            obtain ⟨w, ms, rfl, hw⟩ := ih.members h
            exact ⟨b, 123 :: (w ++ [125]), hb, by simp [hc], .object hw⟩
          next =>
            obtain ⟨w, hw, hform⟩ := skipScalar_sound h
            exact ⟨b, w, hb, by rw [hw], .scalar hform⟩
    · obtain ⟨b, hb, rfl⟩ | ⟨sep, t, s', hsep, rfl, hvalue, hmore⟩ := skipItems_inv h
      · exact ⟨b, [], rfl, .done hb⟩
      · obtain ⟨b, w, hb, rfl, hw⟩ := ih.value hvalue
        obtain ⟨w', vs, rfl, hw'⟩ := ih.items hmore
        exact ⟨_, () :: vs, by simp,
          .item (hsep.blank_append hb) hw.succ (hw'.imp fun hv => hv.succ)⟩
    · obtain ⟨b, hb, rfl⟩ | ⟨sep, raw, b, t, s', hsep, hraw, hb, rfl, hvalue, hmore⟩ :=
        skipMembers_succ.mp h
      · exact ⟨b, [], rfl, .done hb⟩
      · obtain ⟨b', w, hb', rfl, hw⟩ := ih.value hvalue
        obtain ⟨w', ms, rfl, hw'⟩ := ih.members hmore
        exact ⟨_, ((), ()) :: ms, by simp, .item hsep (.intro hraw hb hb' hw.succ)
          (hw'.imp fun hm => hm.imp fun hv => hv.succ)⟩

/-- **What is passed over** is a value after blanks. -/
theorem skip_sound {s rest : List UInt8} (h : skip s = .ok rest) :
    ∃ b w, Blank b ∧ s = b ++ (w ++ rest) ∧ Passable w := by
  obtain ⟨b, w, hb, hs, hw⟩ := (passes _).value h
  exact ⟨b, w, hb, hs, _, hw⟩

section Complete
variable {P : List UInt8 → Unit → Prop}
  (hvalue : ∀ {fuel b w rest v}, Blank b → P w v → 2 * w.length ≤ fuel → Stops rest →
    skipValue fuel (b ++ (w ++ rest)) = .ok rest)
include hvalue

theorem skipItems_complete (hopens : ∀ {w v}, P w v → Opens w) {first : Bool} {w : List UInt8}
    {vs : List Unit} (h : Chain P first w vs) {fuel : Nat} (hfuel : 2 * w.length < fuel)
    (rest : List UInt8) :
    skipItems fuel first (w ++ 93 :: rest) = .ok rest := by
  induction h generalizing fuel with
  | done hb =>
    obtain ⟨fuel, rfl⟩ := Nat.exists_eq_succ_of_ne_zero (Nat.ne_zero_of_lt hfuel)
    exact skipItems_done hb fuel _ rest
  | item hsep hw hmore ih =>
    rename_i sep w more v vs
    obtain ⟨fuel, rfl⟩ := Nat.exists_eq_succ_of_ne_zero (Nat.ne_zero_of_lt hfuel)
    obtain ⟨c, r, hcons, -⟩ := hopens hw
    have hlen : 0 < w.length := by simp [hcons]
    simp only [List.length_append] at hfuel
    have hstop : Stops (more ++ 93 :: rest) := hmore.stops (by simp [Stops])
    have hskip : skipValue fuel (w ++ (more ++ 93 :: rest)) = .ok (more ++ 93 :: rest) :=
      hvalue blank_nil hw (by omega) hstop
    rw [List.append_assoc, List.append_assoc]
    exact skipItems_item hsep ((hopens hw).append _) hskip (ih (by omega))

theorem skipMembers_complete {first : Bool} {w : List UInt8} {ms : List (Unit × Unit)}
    (h : Chain (Member passing.key fun _ => P) first w ms) {fuel : Nat}
    (hfuel : 2 * w.length < fuel) (rest : List UInt8) :
    skipMembers fuel first (w ++ 125 :: rest) = .ok rest := by
  induction h generalizing fuel with
  | done hb =>
    obtain ⟨fuel, rfl⟩ := Nat.exists_eq_succ_of_ne_zero (Nat.ne_zero_of_lt hfuel)
    exact skipMembers_succ.mpr (.inl ⟨_, hb, rfl⟩)
  | item hsep hw hmore ih =>
    rename_i sep w more m ms
    obtain ⟨fuel, rfl⟩ := Nat.exists_eq_succ_of_ne_zero (Nat.ne_zero_of_lt hfuel)
    obtain ⟨hkey, hb, hb', hw⟩ := hw
    simp only [List.length_append, List.length_cons] at hfuel
    have hstop : Stops (more ++ 125 :: rest) := hmore.stops (by simp [Stops])
    exact skipMembers_succ.mpr (.inr ⟨sep, _, _, _, _, hsep, hkey, hb, by simp,
      hvalue hb' hw (by omega) hstop, ih (by omega)⟩)

end Complete

theorem skipValue_scalar {b w rest : List UInt8} (hb : Blank b) (hw : ScalarForm w)
    (hrest : Stops rest) (fuel : Nat) : skipValue (fuel + 1) (b ++ (w ++ rest)) = .ok rest := by
  have hskip := skipScalar_complete hw hrest
  obtain ⟨c, r, rfl, hblank, harray, -, hobject⟩ := scalarForm_cons hw
  rw [skipValue_succ, skipBlank_append hb, List.cons_append, skipBlank_cons hblank]
  simp only [if_neg harray, if_neg hobject]
  exact hskip

theorem skipValue_complete {depth fuel : Nat} {b w rest : List UInt8} {v : Unit} (hb : Blank b)
    (hw : passing.Value depth w v) (hfuel : 2 * w.length ≤ fuel) (hrest : Stops rest) :
    skipValue fuel (b ++ (w ++ rest)) = .ok rest := by
  have hopens {depth : Nat} {w : List UInt8} {v : Unit} (h : passing.Value depth w v) : Opens w :=
    Reading.Value.opens (fun h => h) h
  -- an item takes a step of the loop besides those of its value: hence twice the length
  induction depth generalizing fuel b w rest v with
  | zero =>
    obtain ⟨c, r, rfl, -⟩ := hopens hw
    obtain ⟨fuel, rfl⟩ : ∃ n, fuel = n + 1 := ⟨fuel - 1, by simp at hfuel; omega⟩
    exact skipValue_scalar hb hw hrest fuel
  | succ depth ih =>
    obtain ⟨c, r, hcons, -⟩ := hopens hw
    obtain ⟨fuel, rfl⟩ : ∃ n, fuel = n + 1 := ⟨fuel - 1, by simp [hcons] at hfuel; omega⟩
    cases hw with
    | scalar hw => exact skipValue_scalar hb hw hrest fuel
    | array hw =>
      simp only [List.length_cons, List.length_append] at hfuel
      rw [skipValue_succ, skipBlank_append hb, List.cons_append, skipBlank_cons (by decide)]
      rw [List.append_assoc]
      exact skipItems_complete ih hopens hw (by omega) rest
    | object hw =>
      simp only [List.length_cons, List.length_append] at hfuel
      rw [skipValue_succ, skipBlank_append hb, List.cons_append, skipBlank_cons (by decide)]
      rw [List.append_assoc]
      exact skipMembers_complete ih hw (by omega) rest

/-- Every value is passed over. -/
theorem skip_complete {b w rest : List UInt8} (hb : Blank b) (hw : Passable w)
    (hrest : Stops rest) : skip (b ++ (w ++ rest)) = .ok rest := by
  obtain ⟨depth, hw⟩ := hw
  exact skipValue_complete hb hw (by simp; omega) hrest

end LintServer.Json.Reader
