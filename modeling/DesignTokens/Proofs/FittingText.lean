import DesignTokens.Console.Wrap
import DesignTokens.Proofs.Markup
import DesignTokens.Proofs.Pieces
import Mathlib.Algebra.Ring.Nat
import Mathlib.Data.List.DropRight

/-!
# Text that fits

A text that is no wider than its line stays on one line. Its words are put behind each other, which
takes no more than the width of the text: a joiner or a mark can only spare columns across a place
where a word ends in something else than a blank. At the end of the line blanks may go, but only
from a text that has more characters than columns.
-/

namespace DesignTokens.Console

open Text (isBlank)

/-- A character adds columns to what follows it, and only a joiner joins the next one. -/
theorem exists_widthFrom_cons (joined : Bool) (last : Option Letter) (c : Letter) :
    ∃ n joined' last', (c ≠ joiner → joined' = false) ∧
      ∀ rest, widthFrom joined last (c :: rest) = n + widthFrom joined' last' rest := by
  by_cases h : joined
  · exact ⟨0, false, last, fun _ => rfl, fun rest => by simp [widthFrom, h]⟩
  by_cases hj : c = joiner
  · exact ⟨0, true, last, fun other => absurd hj other, fun rest => by simp [widthFrom, h, hj]⟩
  by_cases hm : c = emojiMark
  · exact ⟨if last.any growsAsEmoji then 1 else 0, false, none, fun _ => rfl,
      fun rest => by rw [widthFrom, if_neg h, if_neg hj, if_pos hm]⟩
  · exact ⟨charWidth c, false, if charWidth c = 0 then last else some c, fun _ => rfl,
      fun rest => by rw [widthFrom, if_neg h, if_neg hj, if_neg hm]⟩

/-- A text adds columns to what follows it, and joins it only with a joiner at its end. -/
theorem exists_widthFrom_append (cs : List Letter) (joined : Bool) (last : Option Letter) :
    ∃ joined' last', (∀ c, cs.getLast? = some c → c ≠ joiner → joined' = false) ∧
      ∀ rest, widthFrom joined last (cs ++ rest) =
        widthFrom joined last cs + widthFrom joined' last' rest := by
  induction cs generalizing joined last with
  | nil => exact ⟨joined, last, by simp, fun rest => by simp [widthFrom]⟩
  | cons c cs ih =>
    obtain ⟨n, joined₁, last₁, joins, first⟩ := exists_widthFrom_cons joined last c
    obtain ⟨joined₂, last₂, ends, more⟩ := ih joined₁ last₁
    cases cs with
    | nil =>
      refine ⟨joined₁, last₁, ?_, fun rest => ?_⟩
      · rintro d ⟨⟩ other
        exact joins other
      · rw [List.cons_append, List.nil_append, first, first]
        rfl
    | cons d cs =>
      refine ⟨joined₂, last₂, fun e he => ends e (by simpa using he), fun rest => ?_⟩
      rw [List.cons_append, first, first, more, Nat.add_assoc]

/-- A character that a mark may act on can only add to the width. -/
theorem widthFrom_none_le (joined : Bool) (last : Option Letter) (cs : List Letter) :
    widthFrom joined none cs ≤ widthFrom joined last cs := by
  induction cs generalizing joined last with
  | nil => simp [widthFrom]
  | cons c cs ih =>
    simp only [widthFrom]
    by_cases h : joined
    · rw [if_pos h, if_pos h]
      exact ih ..
    rw [if_neg h, if_neg h]
    split
    · exact ih ..
    split
    · simp
    · refine Nat.add_le_add_left ?_ _
      split
      · exact ih ..
      · exact Nat.le_refl _

theorem width_mono {cs ds : List Letter} (front : cs <+: ds) : width cs ≤ width ds := by
  obtain ⟨rest, rfl⟩ := front
  obtain ⟨joined, last, -, whole⟩ := exists_widthFrom_append cs false none
  rw [width, width, whole]
  exact Nat.le_add_right ..

/-- Behind a character that is no joiner a text has at least the width it has by itself. -/
theorem width_add_le {cs : List Letter} {c : Letter} (ends : cs.getLast? = some c) (other : c ≠ joiner)
    (ds : List Letter) : width cs + width ds ≤ width (cs ++ ds) := by
  obtain ⟨joined, last, joins, whole⟩ := exists_widthFrom_append cs false none
  obtain rfl := joins c ends other
  rw [width, width, width, whole]
  exact Nat.add_le_add_left (widthFrom_none_le ..) _

theorem ne_joiner_of_isBlank {c : Letter} (blank : isBlank c) : c ≠ joiner := by
  rintro rfl
  exact absurd blank (by decide)

/-- A text has no word, or its first word goes up to the blanks in front of the next. -/
theorem words_succ_cases (fuel : Nat) (cs : List Letter) :
    words (fuel + 1) cs = ([], cs) ∨ ∃ word rest, cs = word ++ rest ∧
      words (fuel + 1) cs = (word :: (words fuel rest).1, (words fuel rest).2) ∧
      (rest = [] ∨ ∃ c, word.getLast? = some c ∧ isBlank c) := by
  let lead := cs.takeWhile isBlank
  let body := (cs.dropWhile isBlank).takeWhile fun c => !isBlank c
  let behind := (cs.dropWhile isBlank).dropWhile fun c => !isBlank c
  have found : words (fuel + 1) cs = if body.isEmpty then ([], cs) else
      ((lead ++ body ++ behind.takeWhile isBlank) :: (words fuel (behind.dropWhile isBlank)).1,
        (words fuel (behind.dropWhile isBlank)).2) := by
    rw [words]
    simp only [← List.drop_drop, drop_takeWhile]
    rfl
  rw [found]
  split
  · exact Or.inl rfl
  · refine Or.inr ⟨lead ++ body ++ behind.takeWhile isBlank, behind.dropWhile isBlank, ?_, rfl, ?_⟩
    · simp [lead, body, behind, List.takeWhile_append_dropWhile]
    · cases hb : behind with
      | nil => exact Or.inl rfl
      | cons c more =>
        -- The body ends where a blank stands.
        have blank : isBlank c := by
          have stops := List.head?_dropWhile_not (fun c => !isBlank c) (cs.dropWhile isBlank)
          rw [show (cs.dropWhile isBlank).dropWhile _ = c :: more from hb] at stops
          simpa using stops
        have some_ : (c :: more).takeWhile isBlank ≠ [] := by simp [blank]
        refine Or.inr ⟨_, ?_, List.mem_takeWhile_imp (List.getLast_mem some_)⟩
        rw [List.getLast?_append_of_ne_nil _ some_, List.getLast?_eq_some_getLast some_]

/-- The words of a text and what is left over are the text. -/
theorem flatten_words (fuel : Nat) (cs : List Letter) :
    (words fuel cs).1.flatten ++ (words fuel cs).2 = cs := by
  induction fuel generalizing cs with
  | zero => rfl
  | succ fuel ih =>
    rcases words_succ_cases fuel cs with none | ⟨word, rest, rfl, found, -⟩
    · rw [none]
      rfl
    · rw [found, List.flatten_cons, List.append_assoc, ih]

/-- The words of a text take no more columns than the text. -/
theorem sum_width_words_le (fuel : Nat) (cs : List Letter) :
    ((words fuel cs).1.map width).sum ≤ width cs := by
  induction fuel generalizing cs with
  | zero => exact Nat.zero_le _
  | succ fuel ih =>
    rcases words_succ_cases fuel cs with none | ⟨word, rest, rfl, found, ends⟩
    · rw [none]
      exact Nat.zero_le _
    · rw [found, List.map_cons, List.sum_cons]
      have more := Nat.add_le_add_left (ih rest) (width word)
      rcases ends with rfl | ⟨c, last, blank⟩
      · simpa [width, widthFrom] using more
      · exact more.trans (width_add_le last (ne_joiner_of_isBlank blank) rest)

theorem Filling.add_of_fits {limit : Nat} {f : Filling} {word : List Letter}
    (fits : f.used + width word ≤ limit) :
    f.add limit word = f.put word (f.used + width word) := by
  have front : width (withoutTail word) ≤ width word :=
    width_mono (List.rdropWhile_prefix ..)
  exact if_pos ((Nat.add_le_add_left front _).trans fits)

/-- Words that fit the line are put behind each other on it. -/
theorem Filling.foldl_add_of_fits {limit : Nat} (ws : List (List Letter)) (f : Filling)
    (fits : f.used + (ws.map width).sum ≤ limit) :
    (ws.foldl (Filling.add limit) f).done = f.done ∧
      (ws.foldl (Filling.add limit) f).line = f.line ++ ws.flatten := by
  induction ws generalizing f with
  | nil => simp
  | cons word ws ih =>
    rw [List.map_cons, List.sum_cons, ← Nat.add_assoc] at fits
    rw [List.foldl_cons, add_of_fits ((Nat.le_add_right ..).trans fits)]
    obtain ⟨done, line⟩ := ih (f.put word (f.used + width word)) fits
    rw [done, line]
    exact ⟨rfl, by simp [put]⟩

theorem expandTabs_of_notMem {line : List Letter} (free : .char '\t' ∉ line) :
    expandTabs line = line := by
  rw [expandTabs, Text.pieces_of_notMem free]
  rfl

theorem dropExcessBlanks_front (limit : Nat) (line : List Letter) :
    dropExcessBlanks limit line <+: line :=
  List.take_prefix ..

theorem crop_of_fits {limit : Nat} {cs : List Letter} (fits : width cs ≤ limit) :
    crop limit cs = cs :=
  if_pos fits

/-- A line that fits stays one, apart from blanks at its end. -/
theorem wrapLine_of_fits {limit : Nat} {line : List Letter} (free : .char '\t' ∉ line)
    (fits : width line ≤ limit) : wrapLine limit line = [dropExcessBlanks limit line] := by
  have small : Filling.start.used + ((words (line.length + 1) line).1.map width).sum ≤ limit := by
    rw [show Filling.start.used = 0 from rfl, Nat.zero_add]
    exact (sum_width_words_le ..).trans fits
  obtain ⟨done, whole⟩ := Filling.foldl_add_of_fits _ Filling.start small
  have one : ((words (line.length + 1) line).1.foldl (Filling.add limit) Filling.start
      |>.put (words (line.length + 1) line).2 0).lines = [line] := by
    rw [Filling.lines, Filling.put, done, whole]
    exact congrArg ([·]) (flatten_words ..)
  have cropped : crop limit (dropExcessBlanks limit line) = dropExcessBlanks limit line :=
    crop_of_fits ((width_mono (dropExcessBlanks_front ..)).trans fits)
  rw [wrapLine, expandTabs_of_notMem free]
  exact (congrArg (List.map _) one).trans (congrArg ([·]) cropped)

/-- A text without line ends that fits is one line, apart from blanks at its end. -/
theorem wrap_of_fits {limit : Nat} {text : List Letter} (whole : .char '\n' ∉ text)
    (free : .char '\t' ∉ text)
    (fits : width text ≤ limit) : wrap limit text = [dropExcessBlanks limit text] := by
  rw [wrap, Text.pieces_of_notMem whole, List.flatMap_singleton, wrapLine_of_fits free fits]

/-- A text as it is seen on a line that it fits: it may lose blanks at its end, but only if it has
characters that take no column. -/
def SeenAs (text shown : List Letter) : Prop :=
  ∃ lost, text = shown ++ lost ∧ (∀ c ∈ lost, isBlank c) ∧ (lost ≠ [] → width text < text.length)

theorem seenAs_dropExcessBlanks {limit : Nat} {line : List Letter} (fits : width line ≤ limit) :
    SeenAs line (dropExcessBlanks limit line) := by
  refine ⟨_, (List.take_append_drop ..).symm, fun c hc => ?_, fun lost => ?_⟩
  · -- What is dropped is the start of the blanks at the end of the line, read from there.
    have back : c ∈ line.reverse.takeWhile isBlank := by
      rw [← List.mem_reverse, List.reverse_drop] at hc
      refine (List.IsPrefix.subset ?_) hc
      refine List.prefix_of_prefix_length_le (List.take_prefix ..) (List.takeWhile_prefix _) ?_
      rw [List.length_take]
      omega
    exact List.mem_takeWhile_imp back
  · have excess : line.length - min (line.reverse.takeWhile isBlank).length
        (line.length - limit) < line.length := by
      rw [← Nat.not_le]
      exact fun long => lost (List.drop_eq_nil_iff.mpr long)
    omega

/-- A text of characters that each take a column is seen as it is. -/
theorem SeenAs.eq_of_length_le {text shown : List Letter} (seen : SeenAs text shown)
    (columns : text.length ≤ width text) : shown = text := by
  obtain ⟨lost, rfl, -, short⟩ := seen
  cases lost with
  | nil => exact (List.append_nil _).symm
  | cons c lost => exact absurd columns (Nat.not_le.mpr (short (List.cons_ne_nil _ _)))

end DesignTokens.Console
