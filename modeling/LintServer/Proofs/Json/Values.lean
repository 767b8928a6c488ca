import LintServer.Proofs.Json.Numbers
import LintServer.Proofs.Json.Strings

/-! # Reading values

The reader of values takes exactly the words of the grammar (`reads_value`).  One step of the
loops over items and members is told once, as what the input looks like when the step goes
well (`items_succ`, `members_succ`); the loops follow by induction, and values by induction on
the room for arrays and objects that is left.
-/
namespace LintServer.Json
open Reader Grammar

/-- **A reader of the words of `P`**: what it reads is such a word after blanks, and it reads
every such word after which it has to stop. -/
structure Reads {α : Type} (read : List UInt8 → Except Fault (α × List UInt8))
    (P : List UInt8 → α → Prop) : Prop where
  opens {w : List UInt8} {v : α} : P w v → Opens w
  sound {s rest : List UInt8} {v : α} : read s = .ok (v, rest) →
    ∃ b w, Blank b ∧ s = b ++ (w ++ rest) ∧ P w v
  complete {b w rest : List UInt8} {v : α} : Blank b → P w v → Stops rest →
    read (b ++ (w ++ rest)) = .ok (v, rest)

theorem Grammar.Opens.append {w : List UInt8} (h : Opens w) (rest : List UInt8) :
    Opens (w ++ rest) := by
  obtain ⟨b, r, rfl, hb⟩ := h
  exact ⟨b, r ++ rest, rfl, hb⟩

namespace Reader
variable {α : Type} {read : List UInt8 → Except Fault (α × List UInt8)}
  {P : List UInt8 → α → Prop}

/-! ## Items -/

/-- What a step of the loop over items does. -/
theorem items_succ {fuel : Nat} {first : Bool} {s rest : List UInt8} {vs : List α} :
    items read (fuel + 1) first s = .ok (vs, rest) ↔
      (∃ b, Blank b ∧ s = b ++ 93 :: rest ∧ vs = []) ∨
      ∃ sep t s' v more, Separator first sep ∧ Opens t ∧ s = sep ++ t ∧
        read t = .ok (v, s') ∧ items read fuel false s' = .ok (more, rest) ∧ vs = v :: more := by
  rw [items]
  constructor
  · intro h
    split at h
    next => cases h
    next b r hs =>
      rw [hs] at h
      obtain ⟨pre, hpre, rfl, hblank⟩ := exists_blank_cons hs
      split at h
      next hb =>
        obtain ⟨rfl, rfl⟩ : [] = vs ∧ r = rest := by simpa using h
        exact .inl ⟨pre, hpre, by rw [hb], rfl⟩
      next hb =>
        right
        split at h
        next hfirst =>
          obtain ⟨⟨v, s'⟩, hv, hnext⟩ := bind_eq_ok_iff.mp h
          obtain ⟨⟨more, rest'⟩, hmore, hok⟩ := bind_eq_ok_iff.mp hnext
          cases hok
          exact ⟨pre, _, s', v, more, hfirst ▸ .start hpre, ⟨b, r, rfl, hblank, hb⟩, rfl, hv,
            hmore, rfl⟩
        next hfirst =>
          split at h
          next hcomma =>
            -- an item has to follow a comma: a bracket there is refused
            split at h
            next => cases h
            next c t ht =>
              obtain ⟨pre', hpre', rfl, hblank'⟩ := exists_blank_cons ht
              split at h
              next => cases h
              next hc =>
                obtain ⟨⟨v, s'⟩, hv, hnext⟩ := bind_eq_ok_iff.mp h
                obtain ⟨⟨more, rest'⟩, hmore, hok⟩ := bind_eq_ok_iff.mp hnext
                cases hok
                refine ⟨pre ++ 44 :: pre', _, s', v, more, ?_, ⟨c, t, rfl, hblank', hc⟩, ?_, hv,
                  hmore, rfl⟩
                · rw [Bool.eq_false_iff.mpr hfirst]
                  exact .comma hpre hpre'
                · simp [hcomma]
          next => cases h
  · rintro (⟨b, hb, rfl, rfl⟩ |
      ⟨sep, t, s', v, more, hsep, ⟨c, r, rfl, hblank, hc⟩, rfl, hv, hmore, rfl⟩)
    · rw [skipBlank_append hb, skipBlank_cons (by decide)]
      simp
    · cases hsep with
      | start hb =>
        rw [skipBlank_append hb, skipBlank_cons hblank]
        simp only [if_neg hc, if_true]
        refine bind_eq_ok_iff.mpr ⟨_, hv, ?_⟩
        exact bind_eq_ok_iff.mpr ⟨_, hmore, rfl⟩
      | comma hb hb' =>
        rw [List.append_assoc, skipBlank_append hb, List.cons_append, skipBlank_cons (by decide)]
        dsimp only
        rw [skipBlank_append hb', skipBlank_cons hblank]
        simp only [if_neg hc]
        refine bind_eq_ok_iff.mpr ⟨_, hv, ?_⟩
        exact bind_eq_ok_iff.mpr ⟨_, hmore, rfl⟩

theorem items_sound (hread : Reads read P) {fuel : Nat} {first : Bool} {s rest : List UInt8}
    {vs : List α} (h : items read fuel first s = .ok (vs, rest)) :
    ∃ w, s = w ++ 93 :: rest ∧ Chain P first w vs := by
  induction fuel generalizing first s vs with
  | zero => cases h
  | succ fuel ih =>
    obtain ⟨b, hb, rfl, rfl⟩ | ⟨sep, t, s', v, more, hsep, -, rfl, hv, hmore, rfl⟩ :=
      items_succ.mp h
    · exact ⟨b, rfl, .done hb⟩
    · obtain ⟨b, w, hb, rfl, hw⟩ := hread.sound hv
      obtain ⟨w', rfl, hw'⟩ := ih hmore
      exact ⟨_, by simp, .item (hsep.blank_append hb) hw hw'⟩

theorem items_complete (hread : Reads read P) {first : Bool} {w : List UInt8} {vs : List α}
    (h : Chain P first w vs) {fuel : Nat} (hfuel : w.length < fuel) (rest : List UInt8) :
    items read fuel first (w ++ 93 :: rest) = .ok (vs, rest) := by
  induction h generalizing fuel with
  | done hb =>
    obtain ⟨fuel, rfl⟩ := Nat.exists_eq_succ_of_ne_zero (Nat.ne_zero_of_lt hfuel)
    exact items_succ.mpr (.inl ⟨_, hb, rfl, rfl⟩)
  | item hsep hw hmore ih =>
    rename_i sep w more v vs
    obtain ⟨fuel, rfl⟩ := Nat.exists_eq_succ_of_ne_zero (Nat.ne_zero_of_lt hfuel)
    obtain ⟨c, r, rfl, hc⟩ := hread.opens hw
    -- a word is not empty, so each step leaves enough fuel for what follows it
    have hlen : more.length < fuel := by simp at hfuel; omega
    have hstop : Stops (more ++ 93 :: rest) := hmore.stops (by simp [Stops])
    refine items_succ.mpr (.inr ⟨sep, c :: r ++ (more ++ 93 :: rest), _, v, vs, hsep,
      (hread.opens hw).append _, by simp, ?_, ih hlen, rfl⟩)
    exact hread.complete blank_nil hw hstop

/-! ## Members -/

theorem colon_eq_ok_iff {s rest : List UInt8} :
    colon s = .ok rest ↔ ∃ b, Blank b ∧ s = b ++ 58 :: rest :=
  byte_eq_ok_iff (by decide) (by simp [next]) (by simp [next])

theorem nextKey_eq_inr_iff {first : Bool} {s rest : List UInt8} :
    nextKey first s = .ok (.inr rest) ↔ ∃ b, Blank b ∧ s = b ++ 125 :: rest := by
  unfold nextKey
  constructor
  · intro h
    split at h
    next => cases h
    next c r hs =>
      obtain ⟨b, hb, rfl, -⟩ := exists_blank_cons hs
      by_cases hc : c = 125
      · obtain rfl : r = rest := by simpa [hc] using h
        exact ⟨b, hb, by rw [hc]⟩
      · simp only [if_neg hc] at h
        grind [next]
  · rintro ⟨b, hb, rfl⟩
    rw [skipBlank_append hb, skipBlank_cons (by decide)]
    simp

theorem nextKey_eq_inl_iff {first : Bool} {s t : List UInt8} :
    nextKey first s = .ok (.inl t) ↔ ∃ sep, Separator first sep ∧ s = sep ++ 34 :: t := by
  unfold nextKey
  constructor
  · intro h
    split at h
    next => cases h
    next c r hs =>
      obtain ⟨b, hb, rfl, -⟩ := exists_blank_cons hs
      split at h
      next => cases h
      next =>
        split at h
        next hfirst =>
          split at h
          next hc =>
            obtain rfl : r = t := by simpa using h
            exact ⟨b, hfirst ▸ .start hb, by rw [hc]⟩
          next => cases h
        next hfirst =>
          split at h
          next hcomma =>
            split at h
            next => cases h
            next d u hu =>
              obtain ⟨b', hb', rfl, -⟩ := exists_blank_cons hu
              split at h
              next hd =>
                obtain rfl : u = t := by simpa using h
                refine ⟨b ++ 44 :: b', ?_, by simp [hcomma, hd]⟩
                rw [Bool.eq_false_iff.mpr hfirst]
                exact .comma hb hb'
              next => split at h <;> cases h
          next => cases h
  · rintro ⟨sep, hsep, rfl⟩
    cases hsep with
    | start hb =>
      rw [skipBlank_append hb, skipBlank_cons (by decide)]
      simp
    | comma hb hb' =>
      rw [List.append_assoc, skipBlank_append hb, List.cons_append, skipBlank_cons (by decide)]
      dsimp only
      rw [skipBlank_append hb', skipBlank_cons (by decide)]
      simp

/-- What a step of the loop over members does. -/
theorem members_succ {fuel : Nat} {first : Bool} {s rest : List UInt8} {ms : List (String × α)} :
    members read (fuel + 1) first s = .ok (ms, rest) ↔
      (∃ b, Blank b ∧ s = b ++ 125 :: rest ∧ ms = []) ∨
      ∃ sep raw key b t s' v more, Separator first sep ∧ Text raw key ∧ Blank b ∧
        s = sep ++ 34 :: (raw ++ 34 :: (b ++ 58 :: t)) ∧
        read t = .ok (v, s') ∧ members read fuel false s' = .ok (more, rest) ∧
        ms = (key, v) :: more := by
  rw [members]
  constructor
  · intro h
    obtain ⟨key, hkey, hnext⟩ := bind_eq_ok_iff.mp h
    cases key with
    | inr rest' =>
      obtain ⟨b, hb, rfl⟩ := nextKey_eq_inr_iff.mp hkey
      obtain ⟨rfl, rfl⟩ : [] = ms ∧ rest' = rest := by simpa using hnext
      exact .inl ⟨b, hb, rfl, rfl⟩
    | inl t =>
      obtain ⟨sep, hsep, rfl⟩ := nextKey_eq_inl_iff.mp hkey
      obtain ⟨⟨key, t₁⟩, htext, hafter⟩ := bind_eq_ok_iff.mp hnext
      obtain ⟨raw, rfl, hraw⟩ := text_eq_ok_iff.mp htext
      obtain ⟨t₂, hcolon, hvalue⟩ := bind_eq_ok_iff.mp hafter
      obtain ⟨b, hb, rfl⟩ := colon_eq_ok_iff.mp hcolon
      obtain ⟨⟨v, s'⟩, hv, hrest⟩ := bind_eq_ok_iff.mp hvalue
      obtain ⟨⟨more, rest'⟩, hmore, hok⟩ := bind_eq_ok_iff.mp hrest
      obtain ⟨rfl, rfl⟩ : (key, v) :: more = ms ∧ rest' = rest := by simpa using hok
      exact .inr ⟨sep, raw, key, b, t₂, s', v, more, hsep, hraw, hb, rfl, hv, hmore, rfl⟩
  · rintro (⟨b, hb, rfl, rfl⟩ |
      ⟨sep, raw, key, b, t, s', v, more, hsep, hraw, hb, rfl, hv, hmore, rfl⟩)
    · exact bind_eq_ok_iff.mpr ⟨_, nextKey_eq_inr_iff.mpr ⟨b, hb, rfl⟩, rfl⟩
    · refine bind_eq_ok_iff.mpr ⟨_, nextKey_eq_inl_iff.mpr ⟨sep, hsep, rfl⟩, ?_⟩
      refine bind_eq_ok_iff.mpr ⟨_, text_eq_ok_iff.mpr ⟨raw, rfl, hraw⟩, ?_⟩
      refine bind_eq_ok_iff.mpr ⟨_, colon_eq_ok_iff.mpr ⟨b, hb, rfl⟩, ?_⟩
      refine bind_eq_ok_iff.mpr ⟨_, hv, ?_⟩
      exact bind_eq_ok_iff.mpr ⟨_, hmore, rfl⟩

theorem members_sound (hread : Reads read P) {fuel : Nat} {first : Bool} {s rest : List UInt8}
    {ms : List (String × α)} (h : members read fuel first s = .ok (ms, rest)) :
    ∃ w, s = w ++ 125 :: rest ∧ Chain (Member Text fun _ => P) first w ms := by
  induction fuel generalizing first s ms with
  | zero => cases h
  | succ fuel ih =>
    obtain ⟨b, hb, rfl, rfl⟩ |
        ⟨sep, raw, key, b, t, s', v, more, hsep, hraw, hb, rfl, hv, hmore, rfl⟩ :=
      members_succ.mp h
    · exact ⟨b, rfl, .done hb⟩
    · obtain ⟨b', w, hb', rfl, hw⟩ := hread.sound hv
      obtain ⟨w', rfl, hw'⟩ := ih hmore
      exact ⟨_, by simp, .item hsep (.intro hraw hb hb' hw) hw'⟩

theorem members_complete (hread : Reads read P) {first : Bool} {w : List UInt8}
    {ms : List (String × α)} (h : Chain (Member Text fun _ => P) first w ms) {fuel : Nat}
    (hfuel : w.length < fuel) (rest : List UInt8) :
    members read fuel first (w ++ 125 :: rest) = .ok (ms, rest) := by
  induction h generalizing fuel with
  | done hb =>
    obtain ⟨fuel, rfl⟩ := Nat.exists_eq_succ_of_ne_zero (Nat.ne_zero_of_lt hfuel)
    exact members_succ.mpr (.inl ⟨_, hb, rfl, rfl⟩)
  | item hsep hw hmore ih =>
    rename_i sep w more m ms
    obtain ⟨fuel, rfl⟩ := Nat.exists_eq_succ_of_ne_zero (Nat.ne_zero_of_lt hfuel)
    obtain ⟨hkey, hb, hb', hw⟩ := hw
    rename_i raw b b' w key v
    have hlen : more.length < fuel := by simp at hfuel; omega
    have hstop : Stops (more ++ 125 :: rest) := hmore.stops (by simp [Stops])
    exact members_succ.mpr (.inr ⟨sep, raw, key, b, _, _, v, ms, hsep, hkey, hb, by simp,
      hread.complete hb' hw hstop, ih hlen, rfl⟩)

/-! ## Scalars -/

/-- Reads a value without parts, from its first byte on. -/
def scalar (s : List UInt8) : Except Fault (Json × List UInt8) :=
  match s with
  | [] => next .endOfValue []
  | b :: r =>
    if b = 110 then do
      let r ← word [117, 108, 108] r
      .ok (.null, r)
    else if b = 116 then do
      let r ← word [114, 117, 101] r
      .ok (.bool true, r)
    else if b = 102 then do
      let r ← word [97, 108, 115, 101] r
      .ok (.bool false, r)
    else if b = 45 then do
      let (n, r) ← number true r
      .ok (.number n, r)
    else if isDigit b then do
      let (n, r) ← number false s
      .ok (.number n, r)
    else if b = 34 then do
      let (t, r) ← text r
      .ok (.string t, r)
    else next .expectedValue s

theorem scalar_sound {s rest : List UInt8} {v : Json} (h : scalar s = .ok (v, rest)) :
    ∃ w, s = w ++ rest ∧ Scalar w v := by
  unfold scalar at h
  split at h
  next => cases h
  next b r =>
    split at h
    next hb =>
      obtain ⟨r, hword, hok⟩ := bind_eq_ok_iff.mp h
      cases hok
      exact ⟨_, by rw [hb, word_eq_ok_iff.mp hword]; rfl, .null⟩
    split at h
    next hb =>
      obtain ⟨r, hword, hok⟩ := bind_eq_ok_iff.mp h
      cases hok
      exact ⟨_, by rw [hb, word_eq_ok_iff.mp hword]; rfl, .true⟩
    split at h
    next hb =>
      obtain ⟨r, hword, hok⟩ := bind_eq_ok_iff.mp h
      cases hok
      exact ⟨_, by rw [hb, word_eq_ok_iff.mp hword]; rfl, .false⟩
    split at h
    next hb =>
      obtain ⟨⟨n, r⟩, hnumber, hok⟩ := bind_eq_ok_iff.mp h
      cases hok
      obtain ⟨w, l, hw, hn, rfl⟩ := number_sound hnumber
      exact ⟨45 :: w, by rw [hb]; rfl, .negative hw hn⟩
    split at h
    next =>
      obtain ⟨⟨n, r⟩, hnumber, hok⟩ := bind_eq_ok_iff.mp h
      cases hok
      obtain ⟨w, l, hw, hn, hs⟩ := number_sound hnumber
      exact ⟨w, hs, .number hw hn⟩
    split at h
    next hb =>
      obtain ⟨⟨t, r⟩, htext, hok⟩ := bind_eq_ok_iff.mp h
      cases hok
      obtain ⟨raw, rfl, hraw⟩ := text_eq_ok_iff.mp htext
      exact ⟨34 :: (raw ++ [34]), by simp [hb], .string hraw⟩
    next => cases h

theorem scalar_complete {w rest : List UInt8} {v : Json} (h : Scalar w v) (hrest : Stops rest) :
    scalar (w ++ rest) = .ok (v, rest) := by
  cases h with
  | null => rfl
  | true => rfl
  | false => rfl
  | number hw hn =>
    have hnumber := number_complete hw hn hrest
    obtain ⟨d, r, rfl, hd⟩ := hw.cons
    rw [List.cons_append] at hnumber ⊢
    rw [scalar, if_neg (ne_of_isDigit hd rfl), if_neg (ne_of_isDigit hd rfl),
      if_neg (ne_of_isDigit hd rfl), if_neg (ne_of_isDigit hd rfl), if_pos hd]
    exact bind_eq_ok_iff.mpr ⟨_, hnumber, rfl⟩
  | negative hw hn =>
    have hnumber := number_complete hw hn hrest
    exact bind_eq_ok_iff.mpr ⟨_, hnumber, rfl⟩
  | string hraw =>
    rw [List.cons_append, List.append_assoc]
    exact bind_eq_ok_iff.mpr ⟨_, text_eq_ok_iff.mpr ⟨_, rfl, hraw⟩, rfl⟩

/-! ## Values -/

/-- Reads an array, after its bracket. -/
def arrayWith (make : List (String × Json) → Json) :
    (room : Nat) → List UInt8 → Except Fault (Json × List UInt8)
  | 0, r => next .tooDeep (91 :: r)
  | room + 1, r => do
    let (vs, r) ← items (valueWith make room) r.length true r
    .ok (.array vs, r)

/-- Reads an object, after its brace. -/
def objectWith (make : List (String × Json) → Json) :
    (room : Nat) → List UInt8 → Except Fault (Json × List UInt8)
  | 0, r => next .tooDeep (123 :: r)
  | room + 1, r => do
    let (ms, r) ← members (valueWith make room) r.length true r
    .ok (make ms, r)

/-- The first byte decides between scalars, arrays and objects. -/
theorem valueWith_eq (make : List (String × Json) → Json) (room : Nat) (s : List UInt8) :
    valueWith make room s =
      match skipBlank s with
      | [] => next .endOfValue []
      | b :: r =>
        if b = 91 then arrayWith make room r
        else if b = 123 then objectWith make room r
        else scalar (b :: r) := by
  rw [valueWith.eq_def]
  dsimp only
  generalize skipBlank s = t
  cases t with
  | nil => rfl
  | cons b r =>
    by_cases harray : b = 91
    · subst harray
      cases room <;> rfl
    · by_cases hobject : b = 123
      · subst hobject
        cases room <;> rfl
      · simp only [scalar, if_neg harray, if_neg hobject]

theorem valueWith_sound {make : List (String × Json) → Json} {room : Nat}
    (harray : ∀ {r rest v}, arrayWith make room r = .ok (v, rest) →
      ∃ w, r = w ++ rest ∧ (decoding make).Value room (91 :: w) v)
    (hobject : ∀ {r rest v}, objectWith make room r = .ok (v, rest) →
      ∃ w, r = w ++ rest ∧ (decoding make).Value room (123 :: w) v)
    {s rest : List UInt8} {v : Json} (h : valueWith make room s = .ok (v, rest)) :
    ∃ b w, Blank b ∧ s = b ++ (w ++ rest) ∧ (decoding make).Value room w v := by
  rw [valueWith_eq] at h
  split at h
  next => cases h
  next c r hs =>
    obtain ⟨b, hb, rfl, -⟩ := exists_blank_cons hs
    split at h
    next hc =>
      obtain ⟨w, rfl, hw⟩ := harray h
      exact ⟨b, 91 :: w, hb, by rw [hc]; rfl, hw⟩
    next =>
      split at h
      next hc =>
        obtain ⟨w, rfl, hw⟩ := hobject h
        exact ⟨b, 123 :: w, hb, by rw [hc]; rfl, hw⟩
      next =>
        obtain ⟨w, hcons, hw⟩ := scalar_sound h
        exact ⟨b, w, hb, by rw [hcons], Reading.Value.mono (Nat.zero_le room) hw⟩

/-- **Values are read** as the grammar tells, with the members of objects put together by
`make`. -/
theorem reads_value (make : List (String × Json) → Json) (room : Nat) :
    Reads (valueWith make room) ((decoding make).Value room) := by
  have hopens {room : Nat} {w : List UInt8} {v : Json} (h : (decoding make).Value room w v) :
      Opens w := Reading.Value.opens (fun h => Scalar.form h) h
  have hscalar {room : Nat} {b w rest : List UInt8} {v : Json} (hb : Blank b) (hw : Scalar w v)
      (hrest : Stops rest) : valueWith make room (b ++ (w ++ rest)) = .ok (v, rest) := by
    have hread := scalar_complete hw hrest
    obtain ⟨c, r, rfl, hblank, harray, -, hobject⟩ := scalarForm_cons hw.form
    rw [valueWith_eq, skipBlank_append hb, List.cons_append, skipBlank_cons hblank]
    simp only [if_neg harray, if_neg hobject]
    exact hread
  -- the parts of an array or an object are values with a level less of room
  induction room with
  | zero =>
    refine ⟨hopens, fun h => valueWith_sound (fun h => ?_) (fun h => ?_) h, hscalar⟩
    · cases h
    · cases h
  | succ room ih =>
    refine ⟨hopens, fun h => valueWith_sound (fun h => ?_) (fun h => ?_) h, ?_⟩
    · obtain ⟨⟨vs, rest⟩, hitems, hok⟩ := bind_eq_ok_iff.mp h
      cases hok
      obtain ⟨w, rfl, hw⟩ := items_sound ih hitems
      exact ⟨w ++ [93], by simp, .array hw⟩
    · obtain ⟨⟨ms, rest⟩, hmembers, hok⟩ := bind_eq_ok_iff.mp h
      cases hok
      obtain ⟨w, rfl, hw⟩ := members_sound ih hmembers
      exact ⟨w ++ [125], by simp, .object hw⟩
    · intro b w rest v hb hw hrest
      cases hw with
      | scalar hw => exact hscalar hb hw hrest
      | array hw =>
        rw [valueWith_eq, skipBlank_append hb, List.cons_append, skipBlank_cons (by decide)]
        rw [List.append_assoc]
        exact bind_eq_ok_iff.mpr ⟨_, items_complete ih hw (by simp) rest, rfl⟩
      | object hw =>
        rw [valueWith_eq, skipBlank_append hb, List.cons_append, skipBlank_cons (by decide)]
        rw [List.append_assoc]
        exact bind_eq_ok_iff.mpr ⟨_, members_complete ih hw (by simp) rest, rfl⟩

theorem reads_decoded (room : Nat) : Reads (value room) (Decodes room) := reads_value _ room

end Reader

theorem Reads.of_iff {α : Type} {read : List UInt8 → Except Fault (α × List UInt8)}
    {P Q : List UInt8 → α → Prop} (hread : Reads read P) (h : ∀ w v, P w v ↔ Q w v) :
    Reads read Q := by
  obtain rfl : P = Q := by
    funext w v
    exact propext (h w v)
  exact hread

/-- What is done with a value after it was read. -/
theorem Reads.map {α β : Type} {read : List UInt8 → Except Fault (α × List UInt8)}
    {P : List UInt8 → α → Prop} (hread : Reads read P) (f : α → β) :
    Reads (fun s => do let (v, rest) ← read s; return (f v, rest))
      fun w y => ∃ v, P w v ∧ f v = y where
  opens := by
    rintro w y ⟨v, hw, -⟩
    exact hread.opens hw
  sound {s rest y} h := by
    obtain ⟨⟨v, rest'⟩, hv, hok⟩ := bind_eq_ok_iff.mp h
    cases hok
    obtain ⟨b, w, hb, hs, hw⟩ := hread.sound hv
    exact ⟨b, w, hb, hs, v, hw, rfl⟩
  complete := by
    rintro b w rest y hb ⟨v, hw, rfl⟩ hrest
    exact bind_eq_ok_iff.mpr ⟨_, hread.complete hb hw hrest, rfl⟩

/-- **An entire text**: one word of `P` between blanks. -/
def Entire {α : Type} (P : List UInt8 → α → Prop) (input : List UInt8) (v : α) : Prop :=
  ∃ b w b', Blank b ∧ Blank b' ∧ input = b ++ (w ++ b') ∧ P w v

/-- Reading on to the end of a text. -/
theorem Reads.entire_iff {α : Type} {read : List UInt8 → Except Fault (α × List UInt8)}
    {P : List UInt8 → α → Prop} (hread : Reads read P) {input : List UInt8} {v : α} :
    (read input >>= fun result => finish result.2 >>= fun _ => pure result.1) = .ok v ↔
      Entire P input v := by
  constructor
  · intro h
    obtain ⟨⟨v, rest⟩, hv, hnext⟩ := bind_eq_ok_iff.mp h
    obtain ⟨⟨⟩, hfinish, hok⟩ := bind_eq_ok_iff.mp hnext
    cases hok
    obtain ⟨b, w, hb, rfl, hw⟩ := hread.sound hv
    exact ⟨b, w, rest, hb, finish_eq_ok_iff.mp hfinish, rfl, hw⟩
  · rintro ⟨b, w, b', hb, hb', rfl, hw⟩
    have hstop : Stops (b' ++ []) := Stops.blank_append hb' (by simp [Stops])
    rw [List.append_nil] at hstop
    refine bind_eq_ok_iff.mpr ⟨_, hread.complete hb hw hstop, ?_⟩
    exact bind_eq_ok_iff.mpr ⟨(), finish_eq_ok_iff.mpr hb', rfl⟩

/-- A text is read as the one value it is. -/
theorem parse_eq_ok_iff {input : List UInt8} {v : Json} :
    parse input = .ok v ↔ ∃ b w b', Blank b ∧ Blank b' ∧ input = b ++ (w ++ b') ∧
      Decodes depthLimit w v :=
  (reads_decoded depthLimit).entire_iff

end LintServer.Json
