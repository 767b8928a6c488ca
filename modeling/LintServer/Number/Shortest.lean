import LintServer.Number.Double

/-!
# The fewest decimal digits that read back

Every `Double` stands for an interval of reals, those that round to it. `Double.decimal` is the
decimal with the fewest digits in that interval and, of several with that many, the nearest to
the number itself. `Layout` says how such a decimal is written down.
-/

namespace LintServer

/-- The decimal `digits * 10 ^ exponent`. -/
structure Decimal where
  digits : Nat
  exponent : Int
deriving DecidableEq, Repr

namespace Decimal

/-- Drops trailing zeros of the digits into the exponent, `fuel` of them at most. -/
def normalise : (fuel : Nat) → Decimal → Decimal
  | 0, x => x
  | fuel + 1, x =>
    if x.digits ≠ 0 ∧ x.digits % 10 = 0 then normalise fuel ⟨x.digits / 10, x.exponent + 1⟩ else x

end Decimal

namespace Double

/-- A ratio divided by `10 ^ p`, again as a ratio. -/
def overTen (n d : Nat) (p : Int) : Nat × Nat :=
  if 0 ≤ p then (n, d * Nat.pow 10 p.toNat) else (n * Nat.pow 10 (-p).toNat, d)

/-- The greatest `p` with `10 ^ p ≤ x`, for a `Double` other than zero. -/
def decade (x : Double) : Int :=
  let guess : Int := ((x.mantissa.log2 + x.exponent) * 30103).fdiv 100000
  let (n, d) := x.ratio
  let reaches (p : Int) : Bool :=
    let (a, b) := overTen n d p
    b ≤ a
  if reaches (guess + 1) then guess + 1 else if reaches guess then guess else guess - 1

/-- Twice the distance from `x` to the ends of its interval, below and above, in units of
`2 ^ (exponent - 2)`. Below a power of two the numbers lie twice as dense. -/
def halfGaps (x : Double) : Nat × Nat :=
  if x.mantissa = 1 <<< 52 ∧ leastExponent < x.exponent then (1, 2) else (2, 2)

/-- Whether `q * 10 ^ p` rounds to `x`. -/
def holds (x : Double) (q : Nat) (p : Int) : Bool :=
  let (below, above) := x.halfGaps
  let (lowest, highest) := (4 * x.mantissa - below, 4 * x.mantissa + above)
  -- `q * 10 ^ p` against `bound * 2 ^ (exponent - 2)`, both as natural numbers
  let (u, v) := overTen q 1 (-p)
  let (s, t) := shifted 1 1 (2 - x.exponent)
  let point := u * t
  let low := lowest * s * v
  let high := highest * s * v
  if x.mantissa % 2 = 0 then low ≤ point && point ≤ high else low < point && point < high

/-- The decimal with `count` digits next to `x`, if one of the two neighbours rounds to `x`: the
nearer one, and half-way the even one. -/
def neighbour? (x : Double) (count : Nat) : Option Decimal :=
  let p := x.decade - count + 1
  let (n, d) := x.ratio
  let (a, b) := overTen n d p
  let q := a / b
  let r := a % b
  match x.holds q p, x.holds (q + 1) p with
  | true, true =>
    if 2 * r < b then some ⟨q, p⟩
    else if b < 2 * r then some ⟨q + 1, p⟩
    else some ⟨q + q % 2, p⟩
  | true, false => some ⟨q, p⟩
  | false, true => some ⟨q + 1, p⟩
  | false, false => none

/-- The shortest decimal that rounds to `x`. Seventeen digits always do. -/
def decimal (x : Double) : Decimal :=
  if x.mantissa = 0 then ⟨0, 0⟩
  else (((List.range 17).findSome? fun k => x.neighbour? (k + 1)).getD ⟨0, 0⟩).normalise 17

end Double

/-- How a number is written: digits around a point while the exponent of the first digit lies
between `lowest` and `highest`, and a power of ten with a signed exponent outside. -/
structure Layout where
  lowest : Int
  highest : Int
deriving DecidableEq, Repr

namespace Layout

/-- Digits around a point, with at least one on either side. -/
def positional (ds : List Char) (point : Int) : List Char :=
  if point ≤ 0 then ['0', '.'] ++ List.replicate (-point).toNat '0' ++ ds
  else if ds.length ≤ point.toNat then
    ds ++ List.replicate (point.toNat - ds.length) '0' ++ ['.', '0']
  else ds.take point.toNat ++ ['.'] ++ ds.drop point.toNat

/-- One digit, the others after a point, and the exponent with its sign. -/
def scientific (ds : List Char) (exponent : Int) : List Char :=
  let mark := if 0 ≤ exponent then ['e', '+'] else ['e', '-']
  let tail := mark ++ Nat.toDigits 10 exponent.natAbs
  match ds with
  | [] => tail
  | [d] => d :: tail
  | d :: more => d :: '.' :: more ++ tail

/-- The text of a number. -/
def write (layout : Layout) (x : Double) : String :=
  let value := x.decimal
  let ds := Nat.toDigits 10 value.digits
  let first : Int := value.exponent + ds.length - 1
  let body :=
    if layout.lowest ≤ first ∧ first ≤ layout.highest then positional ds (first + 1)
    else scientific ds first
  String.ofList (if x.negative then '-' :: body else body)

end Layout

end LintServer
