import DesignTokens.Text

/-! # Pieces of a text -/
namespace DesignTokens.Text

/-- The separator-delimited pieces of a list; there is one more than separators. -/
def pieces {α : Type} [DecidableEq α] (separator : α) : List α → List (List α)
  | [] => [[]]
  | c :: cs =>
    if c = separator then [] :: pieces separator cs
    else
      match pieces separator cs with
      | [] => [[c]]
      | p :: ps => (c :: p) :: ps

def splitAt (separator : Char) (t : Text) : List Text :=
  (pieces (.char separator) t.toList).map ofList

end DesignTokens.Text
