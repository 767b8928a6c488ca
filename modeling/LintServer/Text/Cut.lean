/-!
# Cutting lists at separators
-/

namespace LintServer.Text

/-- Cuts a list at every separator; there is always one more piece than separators. -/
def cut {α : Type} (isSeparator : α → Bool) : List α → List (List α)
  | [] => [[]]
  | a :: r =>
    match isSeparator a, cut isSeparator r with
    | true, pieces => [] :: pieces
    | false, piece :: more => (a :: piece) :: more
    | false, [] => [[a]]

end LintServer.Text
