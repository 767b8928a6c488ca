import LintServer.Engine.Error
import LintServer.Url.Basic

/-!
# Notices

A failed validation is told to the user in one line. Failures of several documents are collected
in `Notices`, so that each distinct line is told once, in ascending order.
-/

namespace LintServer

/-- Puts a space in place of each line break, with or without a carriage return before it. -/
def oneLine : List Char → List Char
  | [] => []
  | '\r' :: '\n' :: r => ' ' :: oneLine r
  | '\n' :: r => ' ' :: oneLine r
  | c :: r => c :: oneLine r

/-- Takes one mark of the command line off the front. -/
def withoutMark : List Char → List Char
  | 'C' :: 'L' :: 'I' :: ':' :: ' ' :: r => r
  | cs => cs

/-- The place a failure without words is told of: the file, or else the URL. -/
def Url.place (u : Url) : String := (u.filePath?.map Path.text).getD u.text

/-- **The line the user is told for a failed validation.** -/
def EngineError.notice (e : EngineError) (u : Url) : String :=
  match e.message? with
  | some message => String.ofList (withoutMark (oneLine message.toList))
  | none => "An unknown error occurred while validating file: " ++ u.place

/-- Distinct lines in ascending order, by code point and so by bytes. -/
structure Notices where
  lines : List String
deriving DecidableEq, Repr

namespace Notices

/-- No lines. -/
def empty : Notices := ⟨[]⟩

/-- Puts a line in its place among lines in ascending order, unless it is there already. -/
def place (line : String) : List String → List String
  | [] => [line]
  | l :: more =>
    if line < l then line :: l :: more
    else if line = l then l :: more
    else l :: place line more

/-- The lines with one more. -/
def add (notices : Notices) (line : String) : Notices := ⟨place line notices.lines⟩

/-- Whether there are none. -/
def isEmpty (notices : Notices) : Bool := notices.lines.isEmpty

/-- How many there are. -/
def size (notices : Notices) : Nat := notices.lines.length

theorem mem_place {line l : String} {lines : List String} :
    l ∈ place line lines ↔ l = line ∨ l ∈ lines := by
  induction lines with
  | nil => simp [place]
  | cons k more ih =>
    unfold place
    split
    · simp
    · split
      · rename_i heq
        simp [heq]
      · simp [ih, or_left_comm]

/-- The lines after some more have been added are the old and the new ones. -/
theorem mem_foldl_add {l : String} (lines : List String) (notices : Notices) :
    l ∈ (lines.foldl add notices).lines ↔ l ∈ lines ∨ l ∈ notices.lines := by
  induction lines generalizing notices with
  | nil => simp
  | cons line more ih => simp [ih, add, mem_place, or_left_comm, or_assoc]

end Notices

end LintServer
