import LintServer.Unicode.Composition

/-!
# Normal form

A text can be written with composed characters or with their parts, and with marks in several
orders. Its normal form takes every character apart, puts the marks behind each starting character
in the order of their classes, and composes again as much as it can.
-/

namespace LintServer.Unicode

/-- Puts a character behind the characters read so far, the last of them first. A mark goes in
front of the marks of a higher class, and behind those of its own. -/
def placeMark (c : Char) : List Char → List Char
  | [] => [c]
  | d :: before =>
    if combiningClass c = 0 ∨ combiningClass d ≤ combiningClass c then c :: d :: before
    else d :: placeMark c before

/-- The parts of a text, with its marks in order. -/
def decomposed (text : List Char) : List Char :=
  ((text.flatMap decompose).foldl (fun done c => placeMark c done) []).reverse

/-- A text that is being composed: what is finished, the starting character that may still take up
marks, and the marks that stayed behind it. Both lists have their last character first. -/
structure Composing where
  done : List Char
  starter : Option Char
  marks : List Char

namespace Composing

/-- Everything read so far, the last character first. -/
def all (state : Composing) : List Char := state.marks ++ state.starter.toList ++ state.done

/-- Whether nothing stands between the starting character and one of some class. -/
def reaches (state : Composing) (c : Char) : Bool :=
  match state.marks with
  | [] => true
  | last :: _ => combiningClass last < combiningClass c

/-- Reads one more character. -/
def push (state : Composing) (c : Char) : Composing :=
  match state.starter.bind fun s => if state.reaches c then compose? s c else none with
  | some made => { state with starter := some made }
  | none =>
    if combiningClass c = 0 then ⟨state.all, some c, []⟩
    else
      match state.starter with
      | none => { state with done := c :: state.done }
      | some _ => { state with marks := c :: state.marks }

end Composing

/-- The normal form of a text. -/
def normal (text : List Char) : List Char :=
  ((decomposed text).foldl Composing.push ⟨[], none, []⟩).all.reverse

end LintServer.Unicode
