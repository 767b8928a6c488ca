/-!
# Labels in ASCII

A label is the part of a domain between two dots. A label with characters beyond ASCII is written
in ASCII: its ASCII characters first, then a dash, then for each other character, in ascending
order, how far one has to count through code points and places to reach it. These distances are
numbers of variable length in base 36 whose thresholds adapt to what was written before.
-/

namespace LintServer.Url.Label

/-- A digit: letters first, then numerals. -/
def digit (n : Nat) : Char := Char.ofNat (if n < 26 then 97 + n else 22 + n)

/-- The value of a digit. -/
def digitValue? (c : Char) : Option Nat :=
  if c.isLower then some (c.toNat - 97)
  else if c.isDigit then some (c.toNat - 22)
  else none

/-- From which value on another digit follows, at place `k`. -/
def threshold (k bias : Nat) : Nat :=
  if k ≤ bias then 1 else if bias + 26 ≤ k then 26 else k - bias

/-- Divides a distance down until it is small, and counts the rounds. -/
def damp (k distance : Nat) : Nat :=
  if 455 < distance then damp (k + 36) (distance / 35)
  else k + 36 * distance / (distance + 38)
termination_by distance

/-- The bias after a distance was written; `count` characters are in place by then. -/
def adapt (distance count : Nat) (first : Bool) : Nat :=
  let distance := if first then distance / 700 else distance / 2
  damp 0 (distance + distance / count)

/-- A label of which a part is known. -/
structure State where
  /-- The smallest code point that may come next. -/
  next : Nat
  /-- How far has been counted since the last character. -/
  distance : Nat
  bias : Nat
  /-- How many characters are in place. -/
  count : Nat

/-- Nothing but `basic` ASCII characters is known. -/
def State.initial (basic : Nat) : State := ⟨128, 0, 72, basic⟩

/-! ### Writing -/

theorem threshold_pos (k bias : Nat) : 0 < threshold k bias := by
  unfold threshold
  split <;> try split
  all_goals omega

/-- The digits of a distance. -/
def number (bias k q : Nat) : List Char :=
  let t := threshold k bias
  if q < t then [digit q]
  else digit (t + (q - t) % (36 - t)) :: number bias (k + 36) ((q - t) / (36 - t))
termination_by q
decreasing_by
  have := threshold_pos k bias
  exact Nat.lt_of_le_of_lt (Nat.div_le_self _ _) (by omega)

/-- Counts past one place of the label, and writes it if it is one of those looked for. -/
def writePlace (basic wanted : Nat) (done : State × List Char) (c : Char) : State × List Char :=
  let (state, written) := done
  if c.toNat < wanted then ({ state with distance := state.distance + 1 }, written)
  else if c.toNat = wanted then
    ({ state with
        distance := 0
        bias := adapt state.distance (state.count + 1) (state.count == basic)
        count := state.count + 1 },
      written ++ number state.bias 36 state.distance)
  else done

/-- Writes all places of one character, the smallest not yet written. -/
def writeAll (label : List Char) (basic : Nat) (done : State × List Char) (wanted : Nat) :
    State × List Char :=
  let (state, written) := done
  let start := { state with
    distance := state.distance + (wanted - state.next) * (state.count + 1), next := wanted }
  let (state, written) := label.foldl (writePlace basic wanted) (start, written)
  ({ state with distance := state.distance + 1, next := wanted + 1 }, written)

/-- A label in ASCII, without its mark. -/
def encode (label : List Char) : List Char :=
  let basic := label.filter (·.toNat < 128)
  let others := ((label.filter (128 ≤ ·.toNat)).map Char.toNat).mergeSort.eraseDups
  let (_, written) := others.foldl (writeAll label basic.length) (.initial basic.length, [])
  basic ++ (if basic = [] then [] else ['-']) ++ written

/-! ### Reading -/

/-- Reads a distance: the distance, and the digits that follow it. -/
def distance? (bias : Nat) : (k weight sum : Nat) → List Char → Option (Nat × List Char)
  | _, _, _, [] => none
  | k, weight, sum, c :: rest =>
    (digitValue? c).bind fun d =>
      let t := threshold k bias
      let sum := sum + d * weight
      if d < t then some (sum, rest) else distance? bias (k + 36) (weight * (36 - t)) sum rest

/-- What is read of a distance is shorter than the digits. -/
theorem length_of_distance? {bias k weight sum : Nat} {digits : List Char} {r : Nat × List Char}
    (h : distance? bias k weight sum digits = some r) : r.2.length < digits.length := by
  induction digits generalizing k weight sum with
  | nil => simp [distance?] at h
  | cons c rest ih =>
    simp only [distance?, Option.bind_eq_some_iff] at h
    obtain ⟨d, _, h⟩ := h
    split at h
    · cases h; simp
    · have := ih h
      simp only [List.length_cons]
      omega

/-- A code point that is a character. -/
def isScalar (n : Nat) : Bool := n < 0xD800 || (0xDFFF < n && n < 0x110000)

/-- Puts the characters that digits stand for in their places among those known. -/
def place? (state : State) (known : List Char) (digits : List Char) : Option (List Char) :=
  if digits = [] then some known
  else
    match _h : distance? state.bias 36 1 0 digits with
    | none => none
    | some (d, rest) =>
      let total := state.distance + d
      let count := state.count + 1
      let next := state.next + total / count
      if isScalar next then
        let place := total % count
        place?
          ⟨next, place + 1, adapt d count (state.distance == 0), count⟩
          (known.take place ++ Char.ofNat next :: known.drop place) rest
      else none
termination_by digits.length
decreasing_by exact length_of_distance? _h

/-- The label that a text in ASCII, without its mark, stands for. -/
def decode? (text : List Char) : Option (List Char) :=
  let digits := (text.reverse.takeWhile (· != '-')).reverse
  let basic := text.take (text.length - digits.length - 1)
  let digits := if basic = [] then text else digits
  place? (.initial basic.length) basic digits

end LintServer.Url.Label
