import LintServer.Proofs.Translation

/-! # Where a diagnostic stands

A finding counts lines and columns from one, in words of 64 bits with a sign, if it gives
them at all; a position counts from zero, in words of 32 bits without.  On the way from one to
the other stand a subtraction, a move into the range of the protocol and a change of width.
`positions_exact` says that none of them wraps: a coordinate is one less than the number in the
finding, or the nearer end of the range, and greater numbers never come to stand before smaller
ones.
-/
namespace LintServer

/-- The coordinate for what a finding has in a field. -/
def coordinateOf (given : Option Json) : UInt32 := zeroBased (given.bind Json.int64?)

/-- **No step from a number to its coordinate wraps.**  The difference is the exact one or, where
there is none, the least number; the number whose words get narrower is the one that comes
out. -/
structure NeverWraps (given : Option Int64) : Prop where
  difference : (lessOne (given.getD 0)).toInt =
    max (-0x8000000000000000) ((given.getD 0).toInt - 1)
  range : 0 ≤ (moved (lessOne (given.getD 0))).toInt ∧
    (moved (lessOne (given.getD 0))).toInt ≤ 0xffffffff
  narrowing : zeroBased given = (moved (lessOne (given.getD 0))).toUInt64.toUInt32 ∧
    ((zeroBased given).toNat : Int) = (moved (lessOne (given.getD 0))).toInt

theorem neverWraps (given : Option Int64) : NeverWraps given where
  difference := toInt_lessOne _
  range := by
    rw [toInt_moved]
    omega
  narrowing := ⟨rfl, toNat_toUInt32_moved _⟩

theorem toNat_coordinateOf {n : Int} (hlow : -0x8000000000000000 ≤ n)
    (hhigh : n < 0x8000000000000000) :
    ((coordinateOf (some (.int n))).toNat : Int) = max 0 (min (n - 1) 0xffffffff) := by
  have hread : (some (Json.int n)).bind Json.int64? = some (Int64.ofInt n) := if_pos ⟨hlow, hhigh⟩
  rw [coordinateOf, hread, toNat_zeroBased, Int64.toInt_ofInt_of_le hlow hhigh]

theorem coordinateOf_mono {n m : Int} (hlow : -0x8000000000000000 ≤ n) (h : n ≤ m)
    (hhigh : m < 0x8000000000000000) :
    coordinateOf (some (.int n)) ≤ coordinateOf (some (.int m)) := by
  have hn := toNat_coordinateOf hlow (show n < 0x8000000000000000 by omega)
  have hm := toNat_coordinateOf (show -0x8000000000000000 ≤ m by omega) hhigh
  rw [UInt32.le_iff_toNat_le]
  omega

/-- **Positions are exact, whatever a finding has for its line and column.**

* The diagnostic of an object stands at one point, with one coordinate for what the object has
  for its line and one for its column.
* A coordinate is one less than an integer of 64 bits, moved to the nearer end of the range where
  it lies outside, and the origin for everything else.
* Greater integers have no smaller coordinates, and from one up to the size of the range the
  coordinate is one less.
* Nothing wraps on the way. -/
theorem positions_exact (members : List (String × Json)) (source : String) :
    (∃ problem, Problem.ofJson? (.object members) = some problem ∧
      (problem.diagnostic source).start =
        ⟨coordinateOf (members.lookup "line"), coordinateOf (members.lookup "column")⟩ ∧
      (problem.diagnostic source).stop = (problem.diagnostic source).start) ∧
    (∀ given, Coordinate given (coordinateOf given)) ∧
    (∀ n m : Int, -0x8000000000000000 ≤ n → n ≤ m → m < 0x8000000000000000 →
      coordinateOf (some (.int n)) ≤ coordinateOf (some (.int m))) ∧
    (∀ n : Int, 1 ≤ n → n ≤ 0x100000000 →
      ((coordinateOf (some (.int n))).toNat : Int) = n - 1) ∧
    ∀ given, NeverWraps given := by
  refine ⟨⟨_, rfl, rfl, rfl⟩, coordinate_zeroBased, ?_, ?_, neverWraps⟩
  · intro n m hlow h hhigh
    exact coordinateOf_mono hlow h hhigh
  · intro n hlow hhigh
    rw [toNat_coordinateOf (by omega) (by omega)]
    omega

namespace Sample

/-- A finding at the ends of what can be given. -/
def extreme : List (String × Json) :=
  [("column", .int 0x7fffffffffffffff), ("line", .int (-0x8000000000000000))]

end Sample

/-- The ends go to the ends, in their order, and the last number that is not moved is the size of
the range. -/
theorem positions_exact_extreme :
    (∃ problem, Problem.ofJson? (.object Sample.extreme) = some problem ∧
      (problem.diagnostic "standard").start = ⟨0, 0xffffffff⟩ ∧
      (problem.diagnostic "standard").stop = ⟨0, 0xffffffff⟩) ∧
    coordinateOf (some (.int (-0x8000000000000000))) ≤
      coordinateOf (some (.int 0x7fffffffffffffff)) ∧
    ((coordinateOf (some (.int 0x100000000))).toNat : Int) = 0x100000000 - 1 := by
  obtain ⟨⟨problem, hproblem, hstart, hstop⟩, hcoordinate, hmono, hexact, -⟩ :=
    positions_exact Sample.extreme "standard"
  have hline : coordinateOf (Sample.extreme.lookup "line") = 0 :=
    (hcoordinate _).unique (.integer (by decide) (by decide) (by decide))
  have hcolumn : coordinateOf (Sample.extreme.lookup "column") = 0xffffffff :=
    (hcoordinate _).unique (.integer (by decide) (by decide) (by decide))
  rw [hline, hcolumn] at hstart
  exact ⟨⟨problem, hproblem, hstart, hstop.trans hstart⟩,
    hmono _ _ (by decide) (by decide) (by decide), hexact _ (by decide) (by decide)⟩

end LintServer
