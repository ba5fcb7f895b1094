import DesignTokens.Text
import DesignTokens.Text.Cased
import DesignTokens.Text.LowerCase

/-! # Letter case

Lower case is that of Unicode: a capital sigma depends on its place in the word, and a capital `I`
with a dot gives two characters. Upper case is that of ASCII and folds the characters outside
ASCII whose upper case is made of ASCII letters, so that a comparison with ASCII names in capitals
is exact. -/
namespace DesignTokens.Text

/-- A sigma ends a word if a letter precedes it and none follows; marks in between do not count.
`before` holds the characters in front of it, the nearest first. -/
def sigmaEnds (before after : List Char) : Bool :=
  ((before.dropWhile isCaseIgnorable).head?.any isCased) &&
    !((after.dropWhile isCaseIgnorable).head?.any isCased)

/-- The lower case form of a text behind the characters `before`, the nearest first. -/
def lowerFrom (before : List Char) : List Char → List Char
  | [] => []
  | c :: rest =>
    let form :=
      if c = '\u03A3' then [if sigmaEnds before rest then '\u03C2' else '\u03C3']
      else if c = '\u0130' then ['i', '\u0307']
      else [lowerChar c]
    form ++ lowerFrom (c :: before) rest

def lower (s : String) : String := String.ofList (lowerFrom [] s.toList)

/-- A list of letters with its runs of characters in lower case. A surrogate ends a word; `run` holds
the characters in front, the nearest first. -/
def loweredFrom (run : List Char) : List Letter → List Letter
  | [] => (lowerFrom [] run.reverse).map .char
  | .char c :: rest => loweredFrom (c :: run) rest
  | .surrogate n :: rest =>
    (lowerFrom [] run.reverse).map .char ++ .surrogate n :: loweredFrom [] rest

def lowered (t : Text) : Text := ⟨loweredFrom [] t.toList⟩

/-- The characters outside ASCII whose capital form is written in ASCII. -/
def capitalForms : List (Char × String) :=
  [('\u0131', "I"), ('\u017F', "S"), ('\u00DF', "SS"), ('\uFB00', "FF"), ('\uFB01', "FI"),
    ('\uFB02', "FL"), ('\uFB03', "FFI"), ('\uFB04', "FFL"), ('\uFB05', "ST"), ('\uFB06', "ST")]

def capital (c : Char) : List Char :=
  match capitalForms.lookup c with
  | some form => form.toList
  | none => [c.toUpper]

def upper (s : String) : String := String.ofList (s.toList.flatMap capital)

end DesignTokens.Text
