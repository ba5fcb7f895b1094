import DesignTokens.Console.CharWidth

/-! # The widths of texts

A text takes the columns of its characters, but a joiner takes the character behind it into the one
in front, and a character that is narrow by itself may be followed by the mark that shows it as a
wide emoji. Characters that cannot be parted form a cluster. -/
namespace DesignTokens.Console

def joiner : Char := '\u200D'

/-- Asks for the character in front to be shown as an emoji. -/
def emojiMark : Char := '\uFE0F'

/-- The columns of the rest of a text. `joined` says that its first character belongs to what is in
front of it, `last` is the latest character with a width that has not been followed by a mark. -/
def widthFrom (joined : Bool) (last : Option Letter) : List Letter → Nat
  | [] => 0
  | c :: rest =>
    if joined then widthFrom false last rest
    else if c = joiner then widthFrom true last rest
    else if c = emojiMark then
      (if last.any growsAsEmoji then 1 else 0) + widthFrom false none rest
    else
      let n := charWidth c
      n + widthFrom false (if n = 0 then last else some c) rest

/-- The columns of a text. -/
def width (cs : List Letter) : Nat := widthFrom false none cs

/-- Characters that are shown together, and the columns they take. -/
structure Cluster where
  letters : List Letter
  width : Nat
  deriving DecidableEq, Repr

/-- A cluster with one more character and `n` more columns. -/
def Cluster.push (x : Cluster) (c : Letter) (n : Nat) : Cluster := ⟨x.letters ++ [c], x.width + n⟩

/-- The clusters of the rest of a text behind the cluster `x`. -/
def clustersFrom (joined : Bool) (last : Option Letter) (x : Cluster) : List Letter → List Cluster
  | [] => [x]
  | c :: rest =>
    if joined then clustersFrom false last (x.push c 0) rest
    else if c = joiner then clustersFrom true last (x.push c 0) rest
    else if c = emojiMark then
      if last.any growsAsEmoji then clustersFrom false none (x.push c 1) rest
      else clustersFrom false last (x.push c 0) rest
    else
      let n := charWidth c
      if n = 0 then clustersFrom false last (x.push c 0) rest
      else x :: clustersFrom false (some c) ⟨[c], n⟩ rest

/-- The clusters of a text; at its start neither a joiner nor a mark has anything to act on. -/
def clusters : List Letter → List Cluster
  | [] => []
  | c :: rest =>
    let n := charWidth c
    clustersFrom false (if n = 0 then none else some c) ⟨[c], n⟩ rest

/-- A heart is narrow, and wide as an emoji; joined characters take as much as the first of them. -/
example : width ['\u2764'] = 1 ∧ width ['\u2764', '\uFE0F'] = 2 ∧
    width ['👩', '\u200D', '💻'] = 2 := by
  decide +kernel

end DesignTokens.Console
