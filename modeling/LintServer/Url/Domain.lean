import LintServer.Text.Cut
import LintServer.Unicode.Bidi
import LintServer.Unicode.DomainMapping
import LintServer.Unicode.Joining
import LintServer.Unicode.Mark
import LintServer.Unicode.Normal
import LintServer.Url.Label

/-!
# Domains

A domain may be written in any script. `Domain.toAscii?` gives the form in which it is looked up:
characters are mapped and the text is brought into its normal form, each label is checked, and the
labels with characters beyond ASCII are written as in `LintServer.Url.Label` behind a mark. A label
that already has the mark is read and checked like any other.
-/

namespace LintServer.Url.Domain
open Text (cut)
open Unicode

/-- What a label in ASCII starts with when it stands for one that is not. -/
def mark : List Char := ['x', 'n', '-', '-']

/-- Characters no domain has. -/
def isForbidden (c : Char) : Bool :=
  c.toNat ≤ 32 || c.toNat = 127
    || ['%', '#', '/', ':', '<', '>', '?', '@', '[', '\\', ']', '^', '|'].contains c

/-! ### Joiners -/

/-- The invisible character that keeps letters from joining. -/
def nonJoiner : Char := '\u200c'

/-- The invisible character that makes letters join. -/
def joiner : Char := '\u200d'

/-- The class of the marks that silence a vowel. -/
def silencing : Nat := 9

/-- The way the nearest character that is not passed over joins. -/
def nearest (cs : List Char) : Joining :=
  ((cs.map joining).find? (· != .transparent)).getD .none

/-- Whether a joiner or non-joiner makes sense after some characters, the last first, and before
others: behind a silencing mark, or, keeping letters apart, between letters that would join. -/
def joinsHere (c : Char) (before after : List Char) : Bool :=
  (before.head?.any fun d => combiningClass d == silencing)
    || (c == nonJoiner && (nearest before == .left || nearest before == .both)
      && (nearest after == .right || nearest after == .both))

/-- Whether all joiners make sense; `before` is what was passed, the last character first. -/
def joinersFit (before : List Char) : List Char → Bool
  | [] => true
  | c :: after =>
    (!(c == joiner || c == nonJoiner) || joinsHere c before after) && joinersFit (c :: before) after

/-! ### Directions -/

/-- Classes that make the order of a domain's characters a question. -/
def turns (d : Direction) : Bool := d == .rightToLeft || d == .arabicLetter || d == .arabicNumber

/-- Classes that any label may have. -/
def isNeutral (d : Direction) : Bool :=
  [.europeanNumber, .europeanSeparator, .commonSeparator, .europeanTerminator, .neutral, .boundary,
    .nonSpacing].contains d

/-- The class a label ends with, marks apart. -/
def lastDirection (ds : List Direction) : Option Direction :=
  (ds.reverse.dropWhile (· == .nonSpacing)).head?

/-- Whether a label reads in one direction only, the one of its first character. -/
def isOrdered (label : List Char) : Bool :=
  let ds := label.map direction
  match ds with
  | [] => true
  | .leftToRight :: _ =>
    ds.all (fun d => isNeutral d || d == .leftToRight)
      && (lastDirection ds).any (fun d => d == .leftToRight || d == .europeanNumber)
  | .rightToLeft :: _ | .arabicLetter :: _ =>
    ds.all (fun d => isNeutral d || turns d)
      && (lastDirection ds).any (fun d => turns d || d == .europeanNumber)
      && !(ds.contains .europeanNumber && ds.contains .arabicNumber)
  | _ => false

/-! ### Labels -/

/-- Whether a label starts with a character of its own, and its joiners make sense. -/
def isSound (label : List Char) : Bool := !label.head?.any isMark && joinersFit [] label

/-- The label that one behind a mark stands for. It has to be one that would be written so. -/
def marked? (text : List Char) : Option (List Char) :=
  if text.all (·.toNat < 128) ∧ text.getLast?.any (· != '-') then
    (Label.decode? text).filter fun label =>
      label.all isKept && normal label == label && !mark.isPrefixOf label && isSound label
  else none

/-- Checks a label, and reads it if it has a mark. -/
def label? (label : List Char) : Option (List Char) :=
  if label.any isForbidden then none
  else if mark.isPrefixOf label then marked? (label.drop mark.length)
  else if isSound label then some label
  else none

/-- A label in ASCII. -/
def asciiLabel (label : List Char) : List Char :=
  if label.all (·.toNat < 128) then label else mark ++ Label.encode label

/-- **A domain in ASCII**, if it can be one. -/
def toAscii? (domain : List Char) : Option (List Char) := do
  let mapped ← domain.mapM domainMapping?
  let labels ← (cut (· == '.') (normal mapped.flatten)).mapM label?
  if labels.any (fun label => label.any fun c => turns (direction c)) && !labels.all isOrdered then
    none
  else return List.intercalate ['.'] (labels.map asciiLabel)

end LintServer.Url.Domain
