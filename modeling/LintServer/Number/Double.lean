/-!
# Finite floating-point numbers

A `Double` is a sign, a mantissa and a power of two, in the range and precision of the 64-bit
binary format. Products, quotients and decimal readings are computed on exact ratios of natural
numbers and rounded once to the nearest `Double`, a tie going to the even mantissa (`ofRatio`).
-/

namespace LintServer

/-- The number `mantissa * 2 ^ exponent`, with a sign. -/
structure Double where
  negative : Bool
  mantissa : Nat
  exponent : Int
deriving DecidableEq, Repr

namespace Double

/-- The least exponent of the format. -/
def leastExponent : Int := -1074

/-- The greatest exponent of the format. -/
def greatestExponent : Int := 971

/-- Zero, with a sign. -/
def zero (negative : Bool) : Double := ⟨negative, 0, leastExponent⟩

/-- The natural number nearest to `n / d`; half-way, the even one. -/
def roundDiv (n d : Nat) : Nat :=
  let q := n / d
  let r := n % d
  if 2 * r < d then q else if d < 2 * r then q + 1 else q + q % 2

/-- The ratio `n / d` divided by `2 ^ e`, again as a ratio. -/
def shifted (n d : Nat) (e : Int) : Nat × Nat :=
  if 0 ≤ e then (n, d <<< e.toNat) else (n <<< (-e).toNat, d)

/-- The exponent at which `n / d` has a mantissa of 53 binary digits, or the least one. -/
def exponentFor (n d : Nat) : Int :=
  let guess : Int := (n.log2 : Int) - d.log2 - 52
  let (a, b) := shifted n d guess
  let exact := if a / b < 1 <<< 52 then guess - 1 else guess
  max exact leastExponent

/-- The `Double` nearest to `n / d`, or `none` when it would be infinite. -/
def ofRatio (negative : Bool) (n d : Nat) : Option Double :=
  if n = 0 then some (zero negative)
  else
    let e := exponentFor n d
    let (a, b) := shifted n d e
    let m := roundDiv a b
    let (m, e) := if m = 1 <<< 53 then (1 <<< 52, e + 1) else (m, e)
    if greatestExponent < e then none else some ⟨negative, m, e⟩

/-- The magnitude of a `Double` as a ratio. -/
def ratio (x : Double) : Nat × Nat := shifted x.mantissa 1 (-x.exponent)

/-- The rounded product of the magnitudes, or `none` when it would be infinite. -/
def mul? (x y : Double) : Option Double :=
  let (a, b) := x.ratio
  let (c, d) := y.ratio
  ofRatio (x.negative != y.negative) (a * c) (b * d)

/-- The rounded quotient of the magnitudes, or `none` when it would be infinite. -/
def div? (x y : Double) : Option Double :=
  let (a, b) := x.ratio
  let (c, d) := y.ratio
  ofRatio (x.negative != y.negative) (a * d) (b * c)

/-- The `Double` nearest to a natural number. -/
def ofNat? (n : Nat) : Option Double := ofRatio false n 1

/-- The greatest power of ten of the format. -/
def greatestPower : Nat := 308

/-- Scales `x` by `10 ^ exponent` in steps of at most `10 ^ 308`, rounding after each step. Below
the range the result is zero after a few steps, which `steps` allows for; above it there is
none. -/
def scale? : (steps : Nat) → Double → (exponent : Int) → Option Double
  | 0, x, _ => some x
  | steps + 1, x, exponent =>
    if exponent.natAbs ≤ greatestPower then do
      let power ← ofNat? (Nat.pow 10 exponent.natAbs)
      if 0 ≤ exponent then x.mul? power else x.div? power
    else if x.mantissa = 0 then some x
    else if 0 ≤ exponent then none
    else do
      let power ← ofNat? (Nat.pow 10 greatestPower)
      let y ← x.div? power
      scale? steps y (exponent + greatestPower)

/-- The value of `significand * 10 ^ exponent`: the significand is rounded first, then scaled. -/
def ofDecimal? (significand : Nat) (exponent : Int) : Option Double := do
  let x ← ofNat? significand
  x.scale? 4 exponent

end Double

end LintServer
