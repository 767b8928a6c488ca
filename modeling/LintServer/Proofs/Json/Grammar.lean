import LintServer.Json.Reader

/-! # The grammar of JSON text

A word of the grammar is a list of bytes, and most words have a meaning.  Words are put
together by concatenation: a *chain* is the inside of an array or an object, items with
commas between them and blanks where blanks may stand.

One description of values serves two purposes (`Reading`).  `decoding` gives a value its
meaning, so its strings are UTF-8, its surrogates come in pairs and its numbers are in range.
`passing` looks at the form alone, and none of that matters.
-/
namespace LintServer.Json.Grammar
open Reader

/-! ## Between tokens -/

def Blank (s : List UInt8) : Prop := ∀ b ∈ s, isBlankByte b = true

/-- Bytes that cannot lengthen a value in front of them. -/
def Stops (rest : List UInt8) : Prop :=
  ∀ b ∈ rest.head?, isBlankByte b = true ∨ b = 44 ∨ b = 93 ∨ b = 125

/-- Bytes that a value may begin with, as far as arrays need to know. -/
def Opens (w : List UInt8) : Prop := ∃ b r, w = b :: r ∧ isBlankByte b = false ∧ b ≠ 93

/-! ## Strings -/

/-- The bytes between the quotes, and the bytes they stand for. -/
inductive Escaped : List UInt8 → List UInt8 → Prop
  | nil : Escaped [] []
  | plain {b : UInt8} {raw out : List UInt8} : b ≠ 34 → b ≠ 92 → 32 ≤ b → Escaped raw out →
      Escaped (b :: raw) (b :: out)
  | letter {e b : UInt8} {raw out : List UInt8} : escapeByte? e = some b → Escaped raw out →
      Escaped (92 :: e :: raw) (b :: out)
  | unit {h1 h2 h3 h4 : UInt8} {n : Nat} {raw out : List UInt8} :
      hex4? h1 h2 h3 h4 = some n → isLeading n = false → isTrailing n = false → Escaped raw out →
      Escaped (92 :: 117 :: h1 :: h2 :: h3 :: h4 :: raw) (Utf8.encodeChar (Char.ofNat n) ++ out)
  | pair {h1 h2 h3 h4 k1 k2 k3 k4 : UInt8} {n m : Nat} {raw out : List UInt8} :
      hex4? h1 h2 h3 h4 = some n → isLeading n = true →
      hex4? k1 k2 k3 k4 = some m → isTrailing m = true → Escaped raw out →
      Escaped
        (92 :: 117 :: h1 :: h2 :: h3 :: h4 :: 92 :: 117 :: k1 :: k2 :: k3 :: k4 :: raw)
        (Utf8.encodeChar (Char.ofNat (0x10000 + (n - 0xD800) * 1024 + (m - 0xDC00))) ++ out)

/-- The bytes between the quotes of a text. -/
def Text (raw : List UInt8) (t : String) : Prop := Escaped raw (Utf8.ofString t)

/-- Bytes that have the form of a string, whatever they stand for. -/
inductive EscapedForm : List UInt8 → Prop
  | nil : EscapedForm []
  | plain {b : UInt8} {raw : List UInt8} : b ≠ 34 → b ≠ 92 → 32 ≤ b → EscapedForm raw →
      EscapedForm (b :: raw)
  | letter {e : UInt8} {raw : List UInt8} : (escapeByte? e).isSome → EscapedForm raw →
      EscapedForm (92 :: e :: raw)
  | unit {h1 h2 h3 h4 : UInt8} {raw : List UInt8} : (hex4? h1 h2 h3 h4).isSome →
      EscapedForm raw → EscapedForm (92 :: 117 :: h1 :: h2 :: h3 :: h4 :: raw)

/-! ## Numbers -/

/-- A number without its sign: the digits in front of the point and behind it, and the digits
of the exponent with its direction. -/
structure Literal where
  whole : List UInt8
  fraction : List UInt8
  exponent : Option (Bool × List UInt8)

def Digits (w : List UInt8) : Prop := w ≠ [] ∧ ∀ b ∈ w, isDigit b = true

/-- Digits in front of the point: a zero stands alone. -/
def Whole (w : List UInt8) : Prop := Digits w ∧ (w.head? = some 48 → w = [48])

inductive Fraction : List UInt8 → List UInt8 → Prop
  | absent : Fraction [] []
  | digits {ds : List UInt8} : Digits ds → Fraction (46 :: ds) ds

/-- The sign of an exponent, and whether it points down. -/
inductive Direction : List UInt8 → Bool → Prop
  | plain : Direction [] false
  | up : Direction [43] false
  | down : Direction [45] true

inductive Exponent : List UInt8 → Option (Bool × List UInt8) → Prop
  | absent : Exponent [] none
  | digits {e : UInt8} {sign ds : List UInt8} {down : Bool} : e = 101 ∨ e = 69 →
      Direction sign down → Digits ds → Exponent (e :: (sign ++ ds)) (some (down, ds))

inductive Numeral : List UInt8 → Literal → Prop
  | intro {w f x : List UInt8} {ds : List UInt8} {ex : Option (Bool × List UInt8)} : Whole w →
      Fraction f ds → Exponent x ex → Numeral (w ++ (f ++ x)) ⟨w, ds, ex⟩

/-- The number `significand * 10 ^ power`, if it is in range. -/
def scaled (negative : Bool) (significand : Nat) (power : Int) : Option Number :=
  (Double.ofDecimal? significand power).map fun x => .real { x with negative }

/-- What digits without a point or an exponent stand for: an integer while it fits 64 bits. -/
def integral (negative : Bool) (digits : List UInt8) : Option Number :=
  match gather significandLimit 0 digits with
  | (n, []) =>
    if negative = false then some (.integer n)
    else if n ≠ 0 ∧ n ≤ 0x8000000000000000 then some (.integer (-n))
    else scaled true n 0
  | (n, left) => scaled negative n left.length

/-- What a significand stands for with an exponent.  An exponent of too many digits leaves a
zero, unless it makes the number too great. -/
def raised (negative : Bool) (significand : Nat) (power : Int) :
    Option (Bool × List UInt8) → Option Number
  | none => scaled negative significand power
  | some (down, digits) =>
    match gather exponentLimit 0 digits with
    | (e, []) => scaled negative significand (if down then power - e else power + e)
    | _ =>
      if significand ≠ 0 ∧ down = false then none else some (.real (Double.zero negative))

/-- What a number stands for, if it is in range.  Digits beyond the significand's 64 bits only
count. -/
def Literal.number? (negative : Bool) (l : Literal) : Option Number :=
  if l.fraction = [] ∧ l.exponent = none then integral negative l.whole
  else
    let (n, left) := gather significandLimit 0 l.whole
    let (m, left') := gather significandLimit n l.fraction
    raised negative m (left.length - (l.fraction.length - left'.length : Nat)) l.exponent

/-! ## Values without parts -/

inductive Scalar : List UInt8 → Json → Prop
  | null : Scalar [110, 117, 108, 108] .null
  | true : Scalar [116, 114, 117, 101] (.bool true)
  | false : Scalar [102, 97, 108, 115, 101] (.bool false)
  | number {w : List UInt8} {l : Literal} {n : Number} : Numeral w l →
      l.number? false = some n → Scalar w (.number n)
  | negative {w : List UInt8} {l : Literal} {n : Number} : Numeral w l →
      l.number? true = some n → Scalar (45 :: w) (.number n)
  | string {raw : List UInt8} {t : String} : Text raw t → Scalar (34 :: (raw ++ [34])) (.string t)

inductive ScalarForm : List UInt8 → Prop
  | null : ScalarForm [110, 117, 108, 108]
  | true : ScalarForm [116, 114, 117, 101]
  | false : ScalarForm [102, 97, 108, 115, 101]
  | number {w : List UInt8} {l : Literal} : Numeral w l → ScalarForm w
  | negative {w : List UInt8} {l : Literal} : Numeral w l → ScalarForm (45 :: w)
  | string {raw : List UInt8} : EscapedForm raw → ScalarForm (34 :: (raw ++ [34]))

/-! ## Arrays and objects -/

/-- What stands in front of an item: a comma, unless it is the first. -/
inductive Separator : (first : Bool) → List UInt8 → Prop
  | start {b : List UInt8} : Blank b → Separator true b
  | comma {b b' : List UInt8} : Blank b → Blank b' → Separator false (b ++ 44 :: b')

/-- Items of which `P` tells the words, up to the closing bracket. -/
inductive Chain {α : Type} (P : List UInt8 → α → Prop) : (first : Bool) → List UInt8 →
    List α → Prop
  | done {first : Bool} {b : List UInt8} : Blank b → Chain P first b []
  | item {first : Bool} {sep w more : List UInt8} {v : α} {vs : List α} :
      Separator first sep → P w v → Chain P false more vs →
      Chain P first (sep ++ (w ++ more)) (v :: vs)

/-- A key and its value; which values there are may depend on the key. -/
inductive Member {κ α : Type} (K : List UInt8 → κ → Prop) (P : κ → List UInt8 → α → Prop) :
    List UInt8 → κ × α → Prop
  | intro {raw b b' w : List UInt8} {k : κ} {v : α} : K raw k → Blank b → Blank b' → P k w v →
      Member K P (34 :: (raw ++ 34 :: (b ++ 58 :: (b' ++ w)))) (k, v)

/-- What scalars and keys look like, and what becomes of arrays and objects. -/
structure Reading (κ α : Type) where
  scalar : List UInt8 → α → Prop
  key : List UInt8 → κ → Prop
  array : List α → α
  object : List (κ × α) → α

namespace Reading
variable {κ α : Type} (R : Reading κ α)

/-- A value whose parts are words of `P`. -/
inductive Composite (P : List UInt8 → α → Prop) : List UInt8 → α → Prop
  | scalar {w : List UInt8} {v : α} : R.scalar w v → Composite P w v
  | array {w : List UInt8} {vs : List α} : Chain P true w vs →
      Composite P (91 :: (w ++ [93])) (R.array vs)
  | object {w : List UInt8} {ms : List (κ × α)} : Chain (Member R.key fun _ => P) true w ms →
      Composite P (123 :: (w ++ [125])) (R.object ms)

/-- **A value** in which at most `room` arrays and objects are open at once. -/
def Value : (room : Nat) → List UInt8 → α → Prop
  | 0 => R.scalar
  | room + 1 => R.Composite (Value room)

end Reading

/-- Values with their meaning; `make` puts the members of an object together. -/
def decoding (make : List (String × Json) → Json) : Reading String Json where
  scalar := Scalar
  key := Text
  array := .array
  object := make

/-- **A JSON value and what it stands for.**  Of several members of one key the last counts. -/
def Decodes (room : Nat) : List UInt8 → Json → Prop := (decoding .ofMembers).Value room

/-- The form of values. -/
def passing : Reading Unit Unit where
  scalar := fun w _ => ScalarForm w
  key := fun raw _ => EscapedForm raw
  array := fun _ => ()
  object := fun _ => ()

/-- A value of any depth and of the right form. -/
def Passable (w : List UInt8) : Prop := ∃ depth, passing.Value depth w ()

/-! ## Lemmas about words -/

theorem blank_nil : Blank [] := by simp [Blank]

theorem Blank.append {s t : List UInt8} (hs : Blank s) (ht : Blank t) : Blank (s ++ t) := by
  intro b hb
  rcases List.mem_append.mp hb with h | h
  · exact hs b h
  · exact ht b h

theorem Separator.blank_append {first : Bool} {sep b : List UInt8} (h : Separator first sep)
    (hb : Blank b) : Separator first (sep ++ b) := by
  cases h with
  | start h => exact .start (h.append hb)
  | comma h h' =>
    rw [List.append_assoc, List.cons_append]
    exact .comma h (h'.append hb)

theorem Stops.blank_append {b rest : List UInt8} (hb : Blank b) (h : Stops rest) :
    Stops (b ++ rest) := by
  cases b with
  | nil => exact h
  | cons c b =>
    intro d hd
    obtain rfl : c = d := by simpa using hd
    exact .inl (hb c (by simp))

/-- What follows an item cannot lengthen it. -/
theorem Chain.stops {α : Type} {P : List UInt8 → α → Prop} {w rest : List UInt8} {vs : List α}
    (h : Chain P false w vs) (hrest : Stops rest) : Stops (w ++ rest) := by
  cases h with
  | done hb => exact hrest.blank_append hb
  | item hsep _ _ =>
    cases hsep with
    | comma hb _ =>
      rw [List.append_assoc, List.append_assoc]
      exact Stops.blank_append hb (by simp [Stops])

theorem Chain.exists_word {α : Type} {P : List UInt8 → α → Prop} {first : Bool} {w : List UInt8}
    {vs : List α} (h : Chain P first w vs) {v : α} (hv : v ∈ vs) : ∃ w, P w v := by
  induction h with
  | done _ => cases hv
  | item _ hw _ ih =>
    rcases List.mem_cons.mp hv with rfl | hv
    · exact ⟨_, hw⟩
    · exact ih hv

theorem Chain.imp {α : Type} {P Q : List UInt8 → α → Prop} (hPQ : ∀ {w v}, P w v → Q w v)
    {first : Bool} {w : List UInt8} {vs : List α} (h : Chain P first w vs) :
    Chain Q first w vs := by
  induction h with
  | done hb => exact .done hb
  | item hsep hw _ ih => exact .item hsep (hPQ hw) ih

theorem Member.imp {κ α : Type} {K : List UInt8 → κ → Prop} {P Q : κ → List UInt8 → α → Prop}
    (hPQ : ∀ {k w v}, P k w v → Q k w v) {w : List UInt8} {m : κ × α} (h : Member K P w m) :
    Member K Q w m := by
  obtain ⟨hk, hb, hb', hw⟩ := h
  exact ⟨hk, hb, hb', hPQ hw⟩

theorem Numeral.cons {w : List UInt8} {l : Literal} (h : Numeral w l) :
    ∃ d r, w = d :: r ∧ isDigit d = true := by
  obtain ⟨⟨⟨hne, hall⟩, -⟩, -, -⟩ := h
  rename_i w f x ds ex
  cases w with
  | nil => exact absurd rfl hne
  | cons d w => exact ⟨d, _, rfl, hall d (by simp)⟩

theorem Escaped.form {raw out : List UInt8} (h : Escaped raw out) : EscapedForm raw := by
  induction h with
  | nil => exact .nil
  | plain hquote hslash hlow _ ih => exact .plain hquote hslash hlow ih
  | letter he _ ih => exact .letter (by simp [he]) ih
  | unit hn _ _ _ ih => exact .unit (by simp [hn]) ih
  | pair hn _ hm _ _ ih => exact .unit (by simp [hn]) (.unit (by simp [hm]) ih)

theorem Scalar.form {w : List UInt8} {v : Json} (h : Scalar w v) : ScalarForm w := by
  cases h with
  | null => exact .null
  | true => exact .true
  | false => exact .false
  | number hw _ => exact .number hw
  | negative hw _ => exact .negative hw
  | string hraw => exact .string hraw.form

theorem ne_of_isDigit {b c : UInt8} (hb : isDigit b = true) (hc : isDigit c = false) : b ≠ c := by
  rintro rfl
  rw [hb] at hc
  cases hc

/-- How a scalar begins. -/
theorem scalarForm_cons {w : List UInt8} (h : ScalarForm w) :
    ∃ c r, w = c :: r ∧ isBlankByte c = false ∧ c ≠ 91 ∧ c ≠ 93 ∧ c ≠ 123 := by
  cases h with
  | number hw =>
    obtain ⟨d, r, rfl, hd⟩ := hw.cons
    have hne {c : UInt8} (hc : isDigit c = false) : d ≠ c := ne_of_isDigit hd hc
    have hblank : isBlankByte d = false := by
      simp only [isBlankByte, Bool.or_eq_false_iff, beq_eq_false_iff_ne]
      exact ⟨⟨⟨hne rfl, hne rfl⟩, hne rfl⟩, hne rfl⟩
    exact ⟨d, r, rfl, hblank, hne rfl, hne rfl, hne rfl⟩
  | _ => exact ⟨_, _, rfl, by decide, by decide, by decide, by decide⟩

namespace Reading
variable {κ α : Type} {R : Reading κ α}

/-- How a value begins, if its scalars have the form of scalars. -/
theorem Value.opens (hR : ∀ {w v}, R.scalar w v → ScalarForm w) {room : Nat} {w : List UInt8}
    {v : α} (h : R.Value room w v) : Opens w := by
  have hscalar {w v} (h : R.scalar w v) : Opens w := by
    obtain ⟨c, r, rfl, hblank, -, hc, -⟩ := scalarForm_cons (hR h)
    exact ⟨c, r, rfl, hblank, hc⟩
  cases room with
  | zero => exact hscalar h
  | succ room =>
    cases h with
    | scalar h => exact hscalar h
    | array _ => exact ⟨91, _, rfl, by decide, by decide⟩
    | object _ => exact ⟨123, _, rfl, by decide, by decide⟩

theorem Composite.imp {P Q : List UInt8 → α → Prop} (hPQ : ∀ {w v}, P w v → Q w v)
    {w : List UInt8} {v : α} (h : R.Composite P w v) : R.Composite Q w v := by
  cases h with
  | scalar h => exact .scalar h
  | array h => exact .array (h.imp hPQ)
  | object h => exact .object (h.imp fun hm => hm.imp hPQ)

/-- A value fits wherever there is more room. -/
theorem Value.succ {room : Nat} {w : List UInt8} {v : α} (h : R.Value room w v) :
    R.Value (room + 1) w v := by
  induction room generalizing w v with
  | zero => exact .scalar h
  | succ room ih => exact h.imp ih

theorem Value.mono {room room' : Nat} (hle : room ≤ room') {w : List UInt8} {v : α}
    (h : R.Value room w v) : R.Value room' w v := by
  induction hle with
  | refl => exact h
  | step _ ih => exact ih.succ

end Reading

end LintServer.Json.Grammar
