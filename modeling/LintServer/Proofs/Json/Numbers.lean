import LintServer.Proofs.Json.Grammar
import Mathlib.Data.List.TakeWhile

/-! # Reading numbers

A number ends where it cannot go on.  So what is read is a numeral in range (`number_sound`),
and a numeral in range is read whole if what follows cannot lengthen it (`number_complete`).
Passing over a number takes the same bytes and leaves the range out.

Both readers look at the digits in front of the point in the same way (`wholeThen`); what
follows is taken apart from the end, the exponent first.
-/
namespace LintServer.Json.Reader
open Grammar

theorem real_eq_ok_iff {negative : Bool} {m : Nat} {power : Int} {s rest : List UInt8}
    {n : Number} :
    real negative m power s = .ok (n, rest) ↔ scaled negative m power = some n ∧ s = rest := by
  unfold real scaled
  split <;> simp_all [here]

/-- What ends a run of digits. -/
def NoDigit (rest : List UInt8) : Prop := ∀ b ∈ rest.head?, isDigit b = false

theorem takeWhile_digits {ds rest : List UInt8} (hds : Digits ds) (hrest : NoDigit rest) :
    (ds ++ rest).takeWhile isDigit = ds := by
  rw [List.takeWhile_append_of_pos hds.2]
  cases rest with
  | nil => simp
  | cons b r => simp [hrest b rfl]

theorem dropWhile_digits {ds rest : List UInt8} (hds : Digits ds) (hrest : NoDigit rest) :
    (ds ++ rest).dropWhile isDigit = rest := by
  rw [List.dropWhile_append_of_pos hds.2]
  cases rest with
  | nil => simp
  | cons b r => simp [hrest b rfl]

/-- An input begins with a run of digits or with something else. -/
theorem digits_split (s : List UInt8) :
    (∃ ds rest, Digits ds ∧ NoDigit rest ∧ s = ds ++ rest) ∨ NoDigit s := by
  cases s with
  | nil => exact .inr (by simp [NoDigit])
  | cons b r =>
    by_cases hb : isDigit b = true
    · refine .inl ⟨(b :: r).takeWhile isDigit, (b :: r).dropWhile isDigit, ?_, ?_, ?_⟩
      · exact ⟨by simp [hb], fun _ h => List.mem_takeWhile_imp h⟩
      · intro c hc
        have hnot := List.head?_dropWhile_not isDigit (b :: r)
        rw [Option.mem_def.mp hc] at hnot
        exact hnot
      · exact List.takeWhile_append_dropWhile.symm
    · refine .inr fun c hc => ?_
      obtain rfl : b = c := by simpa using hc
      simpa using hb

/-- A byte after which a number ends is no digit, point or letter of an exponent. -/
theorem stops_cons {b : UInt8} {r : List UInt8} (h : Stops (b :: r)) :
    isDigit b = false ∧ b ≠ 46 ∧ b ≠ 101 ∧ b ≠ 69 := by
  have hb := h b rfl
  simp only [isBlankByte, Bool.or_eq_true, beq_iff_eq] at hb
  rcases hb with ((((rfl | rfl) | rfl) | rfl) | rfl | rfl | rfl) <;> decide

theorem noDigit_of_stops {rest : List UInt8} (h : Stops rest) : NoDigit rest := by
  cases rest with
  | nil => simp [NoDigit]
  | cons b r =>
    intro c hc
    obtain rfl : b = c := by simpa using hc
    exact (stops_cons h).1

/-- The direction of an exponent, and the input after its sign. -/
def direction (s : List UInt8) : Bool × List UInt8 :=
  match s with
  | b :: r => if b = 43 then (false, r) else if b = 45 then (true, r) else (false, s)
  | [] => (false, s)

theorem direction_sound (s : List UInt8) :
    ∃ sign, Direction sign (direction s).1 ∧ s = sign ++ (direction s).2 := by
  unfold direction
  split
  next b r =>
    split
    next hb => exact ⟨[43], .up, by simp [hb]⟩
    next =>
      split
      next hb => exact ⟨[45], .down, by simp [hb]⟩
      next => exact ⟨[], .plain, rfl⟩
  next => exact ⟨[], .plain, rfl⟩

theorem direction_complete {sign ds : List UInt8} {down : Bool} (h : Direction sign down)
    (hds : Digits ds) (rest : List UInt8) :
    direction (sign ++ (ds ++ rest)) = (down, ds ++ rest) := by
  obtain ⟨hne, hall⟩ := hds
  cases ds with
  | nil => exact absurd rfl hne
  | cons d ds =>
    have hd := hall d (by simp)
    have hup : d ≠ 43 := ne_of_isDigit hd (by decide)
    have hdown : d ≠ 45 := ne_of_isDigit hd (by decide)
    cases h <;> simp [direction, hup, hdown]

/-- The digits of an exponent. -/
def exponentDigits (negative : Bool) (m : Nat) (power : Int) (down : Bool) (s : List UInt8) :
    Except Fault (Number × List UInt8) :=
  match s with
  | [] => here .endOfValue []
  | b :: r =>
    if isDigit b then
      match gather exponentLimit 0 (s.takeWhile isDigit) with
      | (e, []) => real negative m (if down then power - e else power + e) (s.dropWhile isDigit)
      | (_, left) =>
        if m ≠ 0 ∧ down = false then
          here .numberOutOfRange (s.drop ((s.takeWhile isDigit).length - left.length + 1))
        else .ok (.real (Double.zero negative), s.dropWhile isDigit)
    else here .invalidNumber r

/-- The sign of an exponent is read first. -/
theorem exponentPart_eq (negative : Bool) (m : Nat) (power : Int) (s : List UInt8) :
    exponentPart negative m power s =
      exponentDigits negative m power (direction s).1 (direction s).2 :=
  rfl

theorem exponentDigits_append {negative down : Bool} {m : Nat} {power : Int}
    {ds rest rest' : List UInt8} {n : Number} (hds : Digits ds) (hrest : NoDigit rest) :
    exponentDigits negative m power down (ds ++ rest) = .ok (n, rest') ↔
      raised negative m power (some (down, ds)) = some n ∧ rest = rest' := by
  have htake := takeWhile_digits hds hrest
  have hdrop := dropWhile_digits hds hrest
  obtain ⟨hne, hall⟩ := hds
  cases ds with
  | nil => exact absurd rfl hne
  | cons d ds =>
    unfold exponentDigits raised
    rw [List.cons_append] at htake hdrop ⊢
    simp only [hall d (by simp), if_true, htake, hdrop]
    generalize gather exponentLimit 0 (d :: ds) = p
    obtain ⟨e, left⟩ := p
    cases left with
    | nil => exact real_eq_ok_iff
    | cons l left =>
      dsimp only
      split <;> simp [here]

theorem exponentPart_sound {negative : Bool} {m : Nat} {power : Int} {s rest : List UInt8}
    {n : Number} (h : exponentPart negative m power s = .ok (n, rest)) :
    ∃ sign down ds, Direction sign down ∧ Digits ds ∧ s = sign ++ (ds ++ rest) ∧
      raised negative m power (some (down, ds)) = some n := by
  obtain ⟨sign, hsign, hs⟩ := direction_sound s
  rw [exponentPart_eq] at h
  obtain ⟨ds, rest', hds, hrest, hds'⟩ | hno := digits_split (direction s).2
  · rw [hds', exponentDigits_append hds hrest] at h
    obtain ⟨hn, rfl⟩ := h
    exact ⟨sign, _, ds, hsign, hds, by rw [← hds', ← hs], hn⟩
  · unfold exponentDigits at h
    split at h
    next => cases h
    next b r hb => simp [hno b (by simp [hb]), here] at h

theorem exponentPart_complete {negative down : Bool} {m : Nat} {power : Int}
    {sign ds rest : List UInt8} {n : Number} (hsign : Direction sign down) (hds : Digits ds)
    (hrest : NoDigit rest) (hn : raised negative m power (some (down, ds)) = some n) :
    exponentPart negative m power (sign ++ (ds ++ rest)) = .ok (n, rest) := by
  rw [exponentPart_eq, direction_complete hsign hds, exponentDigits_append hds hrest]
  exact ⟨hn, rfl⟩

/-- The digits in front of an exponent end there. -/
theorem exponent_noDigit {x rest : List UInt8} {ex : Option (Bool × List UInt8)}
    (hx : Exponent x ex) (hrest : Stops rest) : NoDigit (x ++ rest) := by
  cases hx with
  | absent => exact noDigit_of_stops hrest
  | digits he _ _ =>
    intro b hb
    obtain rfl : _ = b := by simpa using hb
    rcases he with rfl | rfl <;> decide

theorem fraction_noDigit {f x ds rest : List UInt8} {ex : Option (Bool × List UInt8)}
    (hf : Fraction f ds) (hx : Exponent x ex) (hrest : Stops rest) :
    NoDigit (f ++ (x ++ rest)) := by
  cases hf with
  | absent => exact (exponent_noDigit hx hrest :)
  | digits _ =>
    intro b hb
    obtain rfl : 46 = b := by simpa using hb
    decide

/-- What follows the digits of a fraction. -/
def afterFraction (negative : Bool) (m : Nat) (power : Int) (s : List UInt8) :
    Except Fault (Number × List UInt8) :=
  match s with
  | b :: r =>
    if b = 101 || b = 69 then exponentPart negative m power r else real negative m power s
  | [] => real negative m power s

theorem afterFraction_sound {negative : Bool} {m : Nat} {power : Int} {s rest : List UInt8}
    {n : Number} (h : afterFraction negative m power s = .ok (n, rest)) :
    ∃ x ex, Exponent x ex ∧ s = x ++ rest ∧ raised negative m power ex = some n := by
  unfold afterFraction at h
  split at h
  next b r =>
    split at h
    next hb =>
      obtain ⟨sign, down, ds, hsign, hds, rfl, hn⟩ := exponentPart_sound h
      exact ⟨_, _, .digits (by simpa using hb) hsign hds, by simp, hn⟩
    next =>
      obtain ⟨hn, rfl⟩ := real_eq_ok_iff.mp h
      exact ⟨[], none, .absent, rfl, hn⟩
  next =>
    obtain ⟨hn, rfl⟩ := real_eq_ok_iff.mp h
    exact ⟨[], none, .absent, rfl, hn⟩

theorem afterFraction_complete {negative : Bool} {m : Nat} {power : Int} {x rest : List UInt8}
    {ex : Option (Bool × List UInt8)} {n : Number} (hx : Exponent x ex) (hrest : Stops rest)
    (hn : raised negative m power ex = some n) :
    afterFraction negative m power (x ++ rest) = .ok (n, rest) := by
  cases hx with
  | absent =>
    have hreal : real negative m power rest = .ok (n, rest) := real_eq_ok_iff.mpr ⟨hn, rfl⟩
    cases rest with
    | nil => exact hreal
    | cons b r =>
      have hb := stops_cons hrest
      simp [afterFraction, hb, hreal]
  | digits he hsign hds =>
    rw [List.cons_append, List.append_assoc, afterFraction, if_pos (by simpa using he)]
    exact exponentPart_complete hsign hds (noDigit_of_stops hrest) hn

theorem fractionPart_append {ds rest : List UInt8} (hds : Digits ds) (hrest : NoDigit rest)
    (negative : Bool) (m : Nat) (power : Int) :
    fractionPart negative m power (ds ++ rest) =
      afterFraction negative (gather significandLimit m ds).1
        (power - (ds.length - (gather significandLimit m ds).2.length : Nat)) rest := by
  unfold fractionPart afterFraction
  rw [takeWhile_digits hds hrest, dropWhile_digits hds hrest]
  cases rest with
  | nil => simp only [if_neg hds.1]
  | cons b r => simp only [if_neg hds.1]

theorem fractionPart_noDigit {s : List UInt8} (hs : NoDigit s) (negative : Bool) (m : Nat)
    (power : Int) {n : Number} {rest : List UInt8} :
    fractionPart negative m power s ≠ .ok (n, rest) := by
  have htake : s.takeWhile isDigit = [] := by
    cases s with
    | nil => rfl
    | cons b r => simp [hs b rfl]
  simp [fractionPart, htake, next]

/-- The number of a literal that is more than digits. -/
theorem number?_raised {w ds : List UInt8} {ex : Option (Bool × List UInt8)}
    (h : ds ≠ [] ∨ ex ≠ none) (negative : Bool) :
    Literal.number? negative ⟨w, ds, ex⟩ =
      raised negative (gather significandLimit (gather significandLimit 0 w).1 ds).1
        ((gather significandLimit 0 w).2.length -
          (ds.length - (gather significandLimit (gather significandLimit 0 w).1 ds).2.length : Nat))
        ex :=
  if_neg (by rintro ⟨hds, hex⟩; simp_all)

/-- What digits alone are read as. -/
def plainInteger (negative : Bool) (digits rest : List UInt8) :
    Except Fault (Number × List UInt8) :=
  let (m, left) := gather significandLimit 0 digits
  if left ≠ [] then real negative m left.length rest
  else if negative = false then .ok (.integer m, rest)
  else if m ≠ 0 ∧ m ≤ 0x8000000000000000 then .ok (.integer (-m), rest)
  else real true m 0 rest

theorem plainInteger_eq_ok_iff {negative : Bool} {digits s rest : List UInt8} {n : Number} :
    plainInteger negative digits s = .ok (n, rest) ↔
      integral negative digits = some n ∧ s = rest := by
  unfold plainInteger integral
  generalize gather significandLimit 0 digits = p
  obtain ⟨m, left⟩ := p
  cases left with
  | cons l left => exact real_eq_ok_iff
  | nil =>
    simp only [ne_eq, not_true_eq_false, if_false]
    split
    · simp
    · split
      · simp
      · exact real_eq_ok_iff

theorem afterInteger_cons (negative : Bool) (digits : List UInt8) (b : UInt8) (r : List UInt8) :
    afterInteger negative digits (b :: r) =
      if b = 46 then
        fractionPart negative (gather significandLimit 0 digits).1
          (gather significandLimit 0 digits).2.length r
      else if b = 101 || b = 69 then
        exponentPart negative (gather significandLimit 0 digits).1
          (gather significandLimit 0 digits).2.length r
      else plainInteger negative digits (b :: r) :=
  rfl

theorem afterInteger_sound {negative : Bool} {w s rest : List UInt8} {n : Number}
    (h : afterInteger negative w s = .ok (n, rest)) :
    ∃ f x ds ex, Fraction f ds ∧ Exponent x ex ∧ s = f ++ (x ++ rest) ∧
      Literal.number? negative ⟨w, ds, ex⟩ = some n := by
  have hplain {s : List UInt8} (h : plainInteger negative w s = .ok (n, rest)) :
      ∃ f x ds ex, Fraction f ds ∧ Exponent x ex ∧ s = f ++ (x ++ rest) ∧
        Literal.number? negative ⟨w, ds, ex⟩ = some n := by
    obtain ⟨hn, rfl⟩ := plainInteger_eq_ok_iff.mp h
    exact ⟨[], [], [], none, .absent, .absent, rfl, hn⟩
  cases s with
  | nil => exact hplain h
  | cons b r =>
    rw [afterInteger_cons] at h
    split at h
    next hb =>
      obtain ⟨ds, r', hds, hr', rfl⟩ | hno := digits_split r
      · rw [fractionPart_append hds hr'] at h
        obtain ⟨x, ex, hx, rfl, hn⟩ := afterFraction_sound h
        refine ⟨_, x, ds, ex, .digits hds, hx, by simp [hb], ?_⟩
        rw [number?_raised (.inl hds.1)]
        exact hn
      · exact absurd h (fractionPart_noDigit hno _ _ _)
    next =>
      split at h
      next hb =>
        obtain ⟨sign, down, ds, hsign, hds, rfl, hn⟩ := exponentPart_sound h
        refine ⟨[], _, [], _, .absent, .digits (by simpa using hb) hsign hds, by simp, ?_⟩
        rw [number?_raised (.inr (by simp))]
        simpa [gather] using hn
      next => exact hplain h

theorem afterInteger_complete {negative : Bool} {w f x ds rest : List UInt8}
    {ex : Option (Bool × List UInt8)} {n : Number} (hf : Fraction f ds) (hx : Exponent x ex)
    (hrest : Stops rest) (hn : Literal.number? negative ⟨w, ds, ex⟩ = some n) :
    afterInteger negative w (f ++ (x ++ rest)) = .ok (n, rest) := by
  cases hf with
  | digits hds =>
    rw [number?_raised (.inl hds.1)] at hn
    rw [List.cons_append, afterInteger_cons, if_pos rfl,
      fractionPart_append hds (exponent_noDigit hx hrest)]
    exact afterFraction_complete hx hrest hn
  | absent =>
    cases hx with
    | digits he hsign hds =>
      rw [number?_raised (.inr (by simp))] at hn
      rw [List.nil_append, List.cons_append, List.append_assoc, afterInteger_cons]
      rw [if_neg (by rintro rfl; simp at he), if_pos (by simpa using he)]
      exact exponentPart_complete hsign hds (noDigit_of_stops hrest) (by simpa [gather] using hn)
    | absent =>
      have hplain : plainInteger negative w rest = .ok (n, rest) :=
        plainInteger_eq_ok_iff.mpr ⟨hn, rfl⟩
      cases rest with
      | nil => exact hplain
      | cons b r =>
        have hb := stops_cons hrest
        simp [afterInteger_cons, hb, hplain]

/-- Reads the digits in front of a point, and then what `after` reads. -/
def wholeThen {β : Type} (ended : Cause) (after : List UInt8 → List UInt8 → Except Fault β)
    (s : List UInt8) : Except Fault β :=
  match s with
  | [] => here ended []
  | b :: r =>
    if b = 48 then
      match r with
      | d :: _ => if isDigit d then next .invalidNumber r else after [b] r
      | [] => after [b] r
    else if isDigit b then after (s.takeWhile isDigit) (s.dropWhile isDigit)
    else here .invalidNumber r

theorem wholeThen_eq_ok_iff {β : Type} {ended : Cause}
    {after : List UInt8 → List UInt8 → Except Fault β} {s : List UInt8} {y : β} :
    wholeThen ended after s = .ok y ↔
      ∃ w r, Whole w ∧ NoDigit r ∧ s = w ++ r ∧ after w r = .ok y := by
  constructor
  · intro h
    unfold wholeThen at h
    split at h
    next => cases h
    next b r =>
      split at h
      next hb =>
        -- a zero stands alone, whatever follows it
        have hw : Whole [b] := ⟨⟨by simp, by simp [hb, isDigit]⟩, by simp [hb]⟩
        split at h
        next d t =>
          split at h
          next => cases h
          next hd => exact ⟨[b], d :: t, hw, by simpa [NoDigit] using hd, rfl, h⟩
        next => exact ⟨[b], [], hw, by simp [NoDigit], rfl, h⟩
      next hb =>
        split at h
        next hdigit =>
          obtain ⟨ds, r', hds, hr', hs⟩ | hno := digits_split (b :: r)
          · rw [hs, takeWhile_digits hds hr', dropWhile_digits hds hr'] at h
            refine ⟨ds, r', ⟨hds, fun hhead => ?_⟩, hr', hs, h⟩
            obtain ⟨hne, -⟩ := hds
            cases ds with
            | nil => exact absurd rfl hne
            | cons d ds =>
              -- the run begins with `b`, which is no zero
              obtain rfl : b = d := (List.cons.inj hs).1
              exact absurd (Option.some.inj hhead) hb
          · exact absurd hdigit (by simp [hno b rfl])
        next => cases h
  · rintro ⟨w, r, ⟨hds, hzero⟩, hr, rfl, h⟩
    have htake := takeWhile_digits hds hr
    have hdrop := dropWhile_digits hds hr
    obtain ⟨hne, hall⟩ := hds
    cases w with
    | nil => exact absurd rfl hne
    | cons d w =>
      rw [List.cons_append] at htake hdrop ⊢
      by_cases hd : d = 48
      · subst hd
        obtain rfl : w = [] := by simpa using hzero rfl
        cases r with
        | nil => exact h
        | cons b r =>
          simp only [List.nil_append, wholeThen, if_true, hr b rfl]
          exact h
      · simp only [wholeThen, if_neg hd, hall d (by simp), if_true, htake, hdrop]
        exact h

theorem number_eq (negative : Bool) (s : List UInt8) :
    number negative s = wholeThen .endOfValue (afterInteger negative) s :=
  rfl

/-- What is read as a number is a numeral in range. -/
theorem number_sound {negative : Bool} {s rest : List UInt8} {n : Number}
    (h : number negative s = .ok (n, rest)) :
    ∃ w l, Numeral w l ∧ l.number? negative = some n ∧ s = w ++ rest := by
  rw [number_eq] at h
  obtain ⟨w, r, hw, -, rfl, hr⟩ := wholeThen_eq_ok_iff.mp h
  obtain ⟨f, x, ds, ex, hf, hx, rfl, hn⟩ := afterInteger_sound hr
  exact ⟨_, _, .intro hw hf hx, hn, by simp⟩

/-- A numeral in range is read whole. -/
theorem number_complete {negative : Bool} {w rest : List UInt8} {l : Literal} {n : Number}
    (hw : Numeral w l) (hn : l.number? negative = some n) (hrest : Stops rest) :
    number negative (w ++ rest) = .ok (n, rest) := by
  obtain ⟨hw, hf, hx⟩ := hw
  rw [number_eq, wholeThen_eq_ok_iff]
  exact ⟨_, _, hw, fraction_noDigit hf hx hrest, by simp, afterInteger_complete hf hx hrest hn⟩

/-! Passing over a number takes the same bytes, in range or not. -/

theorem skipExponent_eq (s : List UInt8) : skipExponent s =
    match (direction s).2 with
    | [] => here .invalidNumber []
    | b :: r => if isDigit b then .ok (r.dropWhile isDigit) else here .invalidNumber r := by
  cases s with
  | nil => rfl
  | cons b r =>
    unfold skipExponent direction
    by_cases hup : b = 43
    · cases r <;> simp [hup]
    · by_cases hdown : b = 45
      · cases r <;> simp [hdown]
      · simp [hup, hdown]

theorem skipExponent_sound {s rest : List UInt8} (h : skipExponent s = .ok rest) :
    ∃ sign down ds, Direction sign down ∧ Digits ds ∧ s = sign ++ (ds ++ rest) := by
  obtain ⟨sign, hsign, hs⟩ := direction_sound s
  rw [skipExponent_eq] at h
  split at h
  next => cases h
  next b r hb =>
    split at h
    next hdigit =>
      obtain rfl : r.dropWhile isDigit = rest := by simpa using h
      refine ⟨sign, _, b :: r.takeWhile isDigit, hsign, ⟨by simp, ?_⟩, ?_⟩
      · intro c hc
        rcases List.mem_cons.mp hc with rfl | hc
        · exact hdigit
        · exact List.mem_takeWhile_imp hc
      · rw [List.cons_append, List.takeWhile_append_dropWhile, ← hb, ← hs]
    next => cases h

theorem skipExponent_complete {sign ds rest : List UInt8} {down : Bool}
    (hsign : Direction sign down) (hds : Digits ds) (hrest : NoDigit rest) :
    skipExponent (sign ++ (ds ++ rest)) = .ok rest := by
  rw [skipExponent_eq, direction_complete hsign hds]
  have hdrop := dropWhile_digits hds hrest
  obtain ⟨hne, hall⟩ := hds
  cases ds with
  | nil => exact absurd rfl hne
  | cons d ds =>
    have hd := hall d (by simp)
    simp only [List.cons_append, hd, if_true]
    rw [List.cons_append, List.dropWhile_cons_of_pos hd] at hdrop
    rw [hdrop]

/-- Passes over what follows the digits of a fraction. -/
def skipAfter (s : List UInt8) : Except Fault (List UInt8) :=
  match s with
  | e :: u => if e = 101 || e = 69 then skipExponent u else .ok (e :: u)
  | [] => .ok []

theorem skipAfter_sound {s rest : List UInt8} (h : skipAfter s = .ok rest) :
    ∃ x ex, Exponent x ex ∧ s = x ++ rest := by
  unfold skipAfter at h
  split at h
  next e u =>
    split at h
    next he =>
      obtain ⟨sign, down, ds, hsign, hds, rfl⟩ := skipExponent_sound h
      exact ⟨_, _, .digits (by simpa using he) hsign hds, by simp⟩
    next => exact ⟨[], none, .absent, by simpa using h⟩
  next => exact ⟨[], none, .absent, by simpa using h⟩

theorem skipAfter_complete {x rest : List UInt8} {ex : Option (Bool × List UInt8)}
    (hx : Exponent x ex) (hrest : Stops rest) : skipAfter (x ++ rest) = .ok rest := by
  cases hx with
  | absent =>
    cases rest with
    | nil => rfl
    | cons b r => simp [skipAfter, stops_cons hrest]
  | digits he hsign hds =>
    rw [List.cons_append, List.append_assoc, skipAfter, if_pos (by simpa using he)]
    exact skipExponent_complete hsign hds (noDigit_of_stops hrest)

theorem skipFraction_point {ds rest : List UInt8} (hds : Digits ds) (hrest : NoDigit rest) :
    skipFraction (46 :: (ds ++ rest)) = skipAfter rest := by
  have hdrop := dropWhile_digits hds hrest
  obtain ⟨hne, hall⟩ := hds
  cases ds with
  | nil => exact absurd rfl hne
  | cons d ds =>
    have hd := hall d (by simp)
    rw [List.cons_append, List.dropWhile_cons_of_pos hd] at hdrop
    simp only [skipFraction, if_true, List.cons_append, hd, hdrop]
    rfl

theorem skipFraction_of_ne {b : UInt8} {r : List UInt8} (hb : b ≠ 46) :
    skipFraction (b :: r) = skipAfter (b :: r) := by
  simp only [skipFraction, if_neg hb]
  rfl

theorem skipFraction_sound {s rest : List UInt8} (h : skipFraction s = .ok rest) :
    ∃ f x ds ex, Fraction f ds ∧ Exponent x ex ∧ s = f ++ (x ++ rest) := by
  cases s with
  | nil => exact ⟨[], [], [], none, .absent, .absent, by simpa [skipFraction] using h⟩
  | cons b r =>
    by_cases hb : b = 46
    · subst hb
      obtain ⟨ds, r', hds, hr', rfl⟩ | hno := digits_split r
      · rw [skipFraction_point hds hr'] at h
        obtain ⟨x, ex, hx, rfl⟩ := skipAfter_sound h
        exact ⟨_, x, ds, ex, .digits hds, hx, by simp⟩
      · cases r with
        | nil => cases h
        | cons d t => simp [skipFraction, hno d rfl, next] at h
    · rw [skipFraction_of_ne hb] at h
      obtain ⟨x, ex, hx, hs⟩ := skipAfter_sound h
      exact ⟨[], x, [], ex, .absent, hx, hs⟩

theorem skipFraction_complete {f x ds rest : List UInt8} {ex : Option (Bool × List UInt8)}
    (hf : Fraction f ds) (hx : Exponent x ex) (hrest : Stops rest) :
    skipFraction (f ++ (x ++ rest)) = .ok rest := by
  have hafter := skipAfter_complete hx hrest
  cases hf with
  | digits hds =>
    rw [List.cons_append, skipFraction_point hds (exponent_noDigit hx hrest)]
    exact hafter
  | absent =>
    rw [List.nil_append]
    have hpoint : ∀ b ∈ (x ++ rest).head?, b ≠ 46 := by
      cases hx with
      | absent =>
        cases rest with
        | nil => simp
        | cons b r => simpa using (stops_cons hrest).2.1
      | digits he _ _ => rcases he with rfl | rfl <;> simp
    cases hs : x ++ rest with
    | nil => rw [hs] at hafter; exact hafter
    | cons b r =>
      rw [skipFraction_of_ne (hpoint b (by simp [hs])), ← hs]
      exact hafter

theorem skipNumber_eq (s : List UInt8) :
    skipNumber s = wholeThen .invalidNumber (fun _ r => skipFraction r) s := by
  unfold skipNumber wholeThen
  cases s with
  | nil => rfl
  | cons b r =>
    by_cases hzero : b = 48
    · cases r <;> simp only [if_pos hzero]
    · by_cases hb : isDigit b = true
      · simp only [if_neg hzero, if_pos hb, List.dropWhile_cons_of_pos hb]
      · simp only [if_neg hzero, if_neg hb]

theorem skipNumber_sound {s rest : List UInt8} (h : skipNumber s = .ok rest) :
    ∃ w l, Numeral w l ∧ s = w ++ rest := by
  rw [skipNumber_eq] at h
  obtain ⟨w, r, hw, -, rfl, hr⟩ := wholeThen_eq_ok_iff.mp h
  obtain ⟨f, x, ds, ex, hf, hx, rfl⟩ := skipFraction_sound hr
  exact ⟨_, _, .intro hw hf hx, by simp⟩

theorem skipNumber_complete {w rest : List UInt8} {l : Literal} (hw : Numeral w l)
    (hrest : Stops rest) : skipNumber (w ++ rest) = .ok rest := by
  obtain ⟨hw, hf, hx⟩ := hw
  rw [skipNumber_eq, wholeThen_eq_ok_iff]
  exact ⟨_, _, hw, fraction_noDigit hf hx hrest, by simp, skipFraction_complete hf hx hrest⟩

end LintServer.Json.Reader
