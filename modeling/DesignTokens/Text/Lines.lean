import DesignTokens.Text

/-! # Line ends

A file may end its lines with a line feed, a carriage return or both; after reading every line
ends with a line feed alone. -/
namespace DesignTokens.Text

def normalizeNewlines : List Char → List Char
  | [] => []
  | '\r' :: '\n' :: rest => '\n' :: normalizeNewlines rest
  | '\r' :: rest => '\n' :: normalizeNewlines rest
  | c :: rest => c :: normalizeNewlines rest

/-- The characters that end a line. -/
def isLineEnd (c : Letter) : Bool :=
  let n := c.code
  (0x0A ≤ n && n ≤ 0x0D) || (0x1C ≤ n && n ≤ 0x1E) || n = 0x85 || n = 0x2028 || n = 0x2029

example : normalizeNewlines ['a', '\r', '\n', 'b', '\r', 'c', '\n'] =
    ['a', '\n', 'b', '\n', 'c', '\n'] := rfl

end DesignTokens.Text
