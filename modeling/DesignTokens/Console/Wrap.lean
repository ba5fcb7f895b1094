import DesignTokens.Console.Width
import DesignTokens.Text.Pieces

/-! # Lines of limited width

Text is broken at blanks into lines that fit a width. A word that is wider than a whole line is cut
where the line is full. -/
namespace DesignTokens.Console

/-- The words of a text, each with the blanks behind it; the first also has those in front. Blanks
alone make no word and are left over. -/
def words : Nat → List Letter → List (List Letter) × List Letter
  | 0, cs => ([], cs)
  | fuel + 1, cs =>
    let lead := cs.takeWhile Text.isBlank
    let body := (cs.drop lead.length).takeWhile fun c => !Text.isBlank c
    if body.isEmpty then ([], cs)
    else
      let rest := cs.drop (lead.length + body.length)
      let tail := rest.takeWhile Text.isBlank
      let (more, left) := words fuel (rest.drop tail.length)
      ((lead ++ body ++ tail) :: more, left)

/-- Pieces of a text that each fit a width, as long as a single cluster does. `piece` is the one in
the making and `used` its width. -/
def chop (limit : Nat) : List Cluster → List Letter → Nat → List (List Letter)
  | [], piece, _ => [piece]
  | x :: rest, piece, used =>
    if used + x.width > limit then piece :: chop limit rest x.letters x.width
    else chop limit rest (piece ++ x.letters) (used + x.width)

/-- Lines in the making: those that are done, the current one and the columns it takes. -/
structure Filling where
  done : List (List Letter)
  line : List Letter
  used : Nat
  started : Bool

namespace Filling

def start : Filling := ⟨[], [], 0, false⟩

/-- Ends the current line, unless nothing has been placed at all. -/
def break_ (f : Filling) : Filling :=
  if f.started then { f with done := f.done ++ [f.line], line := [] } else f

/-- Puts text on the current line, which takes `used` columns from then on. -/
def put (f : Filling) (cs : List Letter) (used : Nat) : Filling :=
  { f with line := f.line ++ cs, used := used, started := f.started || !cs.isEmpty }

def withoutTail (cs : List Letter) : List Letter := (cs.reverse.dropWhile Text.isBlank).reverse

/-- Places a word; the blanks behind it may stand out. -/
def add (limit : Nat) (f : Filling) (word : List Letter) : Filling :=
  let needed := width (withoutTail word)
  if f.used + needed ≤ limit then f.put word (f.used + width word)
  else if limit < needed then
    (chop limit (clusters word) [] 0).foldl (fun f piece => f.break_.put piece (width piece)) f
  else if f.used ≠ 0 then f.break_.put word (width word)
  else f.put word f.used

def lines (f : Filling) : List (List Letter) := f.done ++ [f.line]

end Filling

/-- The stretches between tabs, each with a blank for its tab and those that fill up to the next
multiple of eight columns. -/
def filledStretches : List (List Letter) → Nat → List Letter
  | [], _ => []
  | [stretch], _ => stretch
  | stretch :: rest, column =>
    let stretch := stretch ++ [.char ' ']
    let column := column + width stretch
    let gap := (8 - column % 8) % 8
    stretch ++ List.replicate gap (.char ' ') ++ filledStretches rest (column + gap)

def expandTabs (line : List Letter) : List Letter := filledStretches (Text.pieces (.char '\t') line) 0

/-- Of a line with too many characters, blanks at the end go first. -/
def dropExcessBlanks (limit : Nat) (line : List Letter) : List Letter :=
  let tail := (line.reverse.takeWhile Text.isBlank).length
  line.take (line.length - min tail (line.length - limit))

/-- The clusters that fit a width; where half of a wide one would, a blank stands for it. -/
def cropClusters : Nat → List Cluster → List Letter
  | 0, _ => []
  | _, [] => []
  | limit, x :: rest =>
    if x.width ≤ limit then x.letters ++ cropClusters (limit - x.width) rest else [' ']

/-- A text that is too wide, cut to a width. -/
def crop (limit : Nat) (cs : List Letter) : List Letter :=
  if width cs ≤ limit then cs else cropClusters limit (clusters cs)

/-- One line of text, broken to a width. -/
def wrapLine (limit : Nat) (line : List Letter) : List (List Letter) :=
  let line := expandTabs line
  let (ws, left) := words (line.length + 1) line
  let filled := (ws.foldl (Filling.add limit) Filling.start).put left 0
  filled.lines.map fun l => crop limit (dropExcessBlanks limit l)

/-- A text, line by line. -/
def wrap (limit : Nat) (text : List Letter) : List (List Letter) :=
  (Text.pieces (.char '\n') text).flatMap (wrapLine limit)

end DesignTokens.Console
