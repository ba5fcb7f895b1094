import DesignTokens.Proofs.Entries
import DesignTokens.Proofs.NumberReading
import DesignTokens.Proofs.StringReading
import DesignTokens.Proofs.TextEncoding
import Mathlib.Data.List.Forall2

/-!
# Reading what was written

The values that JSON texts have are read from their written texts as they were, provided that these
are made of characters: a reader reads characters, while a writer may have to write a surrogate. A
part of a list or of a mapping stands between line breaks, which the reader skips, and ends where a
separator or a line break follows.
-/

namespace DesignTokens

/-- The values that JSON texts have: the keys of their mappings are distinct texts. -/
inductive Value.OfJson : Value → Prop
  | null : OfJson .null
  | bool (b : Bool) : OfJson (.bool b)
  | scalar (s : Scalar) : OfJson (.scalar s)
  | list {items : List Value} (all : ∀ v ∈ items, OfJson v) : OfJson (.list items)
  | map {es : Entries} (texts : ∀ e ∈ es, ∃ name, e.1 = .text name) (distinct : es.keys.Nodup)
    (all : ∀ e ∈ es, OfJson e.2) : OfJson (.map es)

namespace Json

open Text (Whole)

/-- A written value does not start like space, like a closing bracket or like a byte order mark. -/
def Starts (text : List Char) : Prop :=
  ∃ c more, text = c :: more ∧ isSpace c = false ∧ c ≠ ']' ∧ c ≠ '\x7d' ∧ c ≠ '\uFEFF'

/-- A text is read as a value wherever something that may follow a value stands behind it. -/
structure ReadAs (text : List Char) (v : Value) : Prop where
  starts : Starts text
  read : ∀ fuel rest, text.length ≤ fuel → Follows rest → value fuel (text ++ rest) = .ok (v, rest)

theorem ReadAs.of_succ {text : List Char} {v : Value} (starts : Starts text)
    (read : ∀ fuel rest, text.length ≤ fuel + 1 → Follows rest →
      value (fuel + 1) (text ++ rest) = .ok (v, rest)) : ReadAs text v where
  starts := starts
  read fuel rest enough follows := by
    obtain ⟨c, more, rfl, -⟩ := starts
    obtain ⟨fuel, rfl⟩ : ∃ k, fuel = k + 1 := ⟨fuel - 1, by simp at enough; omega⟩
    exact read fuel rest enough follows

theorem readAs_word {w : String × Value} (known : w ∈ words) : ReadAs w.1.toList w.2 := by
  simp only [words, List.mem_cons, List.not_mem_nil, or_false] at known
  rcases known with rfl | rfl | rfl | rfl | rfl | rfl
  all_goals exact .of_succ ⟨_, _, rfl, rfl, by decide⟩ fun _ _ _ _ => rfl

theorem afterWord_eq_none {word : String} {cs : List Char} (front : List Char)
    (starts : front <+: word.toList) (other : cs.take front.length ≠ front) :
    afterWord word cs = none := by
  rw [afterWord, if_neg]
  intro found
  obtain ⟨behind, hbehind⟩ := List.isPrefixOf_iff_prefix.mp found
  obtain ⟨more, hmore⟩ := starts
  apply other
  rw [← hbehind, ← hmore, List.append_assoc, List.take_left]

/-- No word starts with a digit, or with one behind a minus sign. -/
theorem word?_digit {d : Char} (digit : d.isDigit) (rest : List Char) :
    word? (d :: rest) = none ∧ word? ('-' :: d :: rest) = none := by
  have other (c : Char) (hc : c.isDigit = false) : d ≠ c := digit_ne digit hc
  have apart : ∀ w ∈ words, afterWord w.1 (d :: rest) = none ∧
      afterWord w.1 ('-' :: d :: rest) = none := by
    intro w known
    simp only [words, List.mem_cons, List.not_mem_nil, or_false] at known
    rcases known with rfl | rfl | rfl | rfl | rfl | rfl
    · exact ⟨afterWord_eq_none ['n'] ⟨_, rfl⟩ (by simp [other 'n' rfl]),
        afterWord_eq_none ['n'] ⟨_, rfl⟩ (by simp)⟩
    · exact ⟨afterWord_eq_none ['t'] ⟨_, rfl⟩ (by simp [other 't' rfl]),
        afterWord_eq_none ['t'] ⟨_, rfl⟩ (by simp)⟩
    · exact ⟨afterWord_eq_none ['f'] ⟨_, rfl⟩ (by simp [other 'f' rfl]),
        afterWord_eq_none ['f'] ⟨_, rfl⟩ (by simp)⟩
    · exact ⟨afterWord_eq_none ['N'] ⟨_, rfl⟩ (by simp [other 'N' rfl]),
        afterWord_eq_none ['N'] ⟨_, rfl⟩ (by simp)⟩
    · exact ⟨afterWord_eq_none ['I'] ⟨_, rfl⟩ (by simp [other 'I' rfl]),
        afterWord_eq_none ['I'] ⟨_, rfl⟩ (by simp)⟩
    · exact ⟨afterWord_eq_none ['-'] ⟨_, rfl⟩ (by simp [other '-' rfl]),
        afterWord_eq_none ['-', 'I'] ⟨_, rfl⟩ (by simp [other 'I' rfl])⟩
  simp only [word?, List.findSome?_eq_none_iff, Option.map_eq_none_iff]
  exact ⟨fun w known => (apart w known).1, fun w known => (apart w known).2⟩

theorem value_digit {d : Char} (digit : d.isDigit) (fuel : Nat) (rest : List Char) :
    value (fuel + 1) (d :: rest) = (unsignedNumber false (d :: rest) (d :: rest)).map
      fun r => (.scalar r.1, r.2) := by
  have other (c : Char) (hc : c.isDigit = false) (cs : List Char) (same : d :: rest = c :: cs) :
      False := digit_ne digit hc (List.cons.inj same).1
  have simply : value (fuel + 1) (d :: rest) = simple (d :: rest) := by
    rw [value]
    · exact other '"' rfl
    · exact other '\x7b' rfl
    · exact other '[' rfl
  rw [simply, simple, (word?_digit digit rest).1]
  exact other '-' rfl

theorem value_minus {d : Char} (digit : d.isDigit) (fuel : Nat) (rest : List Char) :
    value (fuel + 1) ('-' :: d :: rest) = (unsignedNumber true ('-' :: d :: rest) (d :: rest)).map
      fun r => (.scalar r.1, r.2) := by
  have simply : value (fuel + 1) ('-' :: d :: rest) = simple ('-' :: d :: rest) := rfl
  rw [simply, simple, (word?_digit digit rest).2]

/-- A number is read with its sign. -/
theorem readAs_number {negative : Bool} {text : List Char} {s : Scalar}
    (start : ∃ d more, text = d :: more ∧ d.isDigit)
    (read : ∀ shown rest, Follows rest →
      unsignedNumber negative shown (text ++ rest) = .ok (s, rest)) :
    ReadAs ((if negative then ['-'] else []) ++ text) (.scalar s) := by
  obtain ⟨d, more, rfl, digit⟩ := start
  cases negative with
  | false =>
    refine .of_succ ⟨d, more, rfl, ?_⟩ fun fuel rest _ follows => ?_
    · have other (c : Char) (hc : c.isDigit = false) : d ≠ c := digit_ne digit hc
      exact ⟨by simp [isSpace, other], other ']' rfl, other '\x7d' rfl, other '\uFEFF' rfl⟩
    · have number := value_digit digit fuel (more ++ rest)
      rw [← List.cons_append, read _ rest follows] at number
      exact number
  | true =>
    refine .of_succ ⟨'-', d :: more, rfl, rfl, by decide⟩ fun fuel rest _ follows => ?_
    have number := value_minus digit fuel (more ++ rest)
    rw [← List.cons_append, read _ rest follows] at number
    exact number

theorem natText_start_digit (n : Nat) : ∃ d more, natText n = d :: more ∧ d.isDigit := by
  obtain ⟨d, more, text⟩ := List.exists_cons_of_ne_nil (natText_ne_nil n)
  exact ⟨d, more, text, natText_digits d (by rw [text]; exact List.mem_cons_self)⟩

theorem readAs_int {n : Int} {text : String} (shown : intText? n = some text) :
    ReadAs text.toList (.int n) := by
  have small : n.natAbs < 10 ^ maxDigits := by
    unfold intText? at shown
    split at shown
    · cases shown
    · rename_i small
      exact Nat.lt_of_not_le small
  have short : (natText n.natAbs).length ≤ maxDigits :=
    (Nat.length_toDigits_le_iff (by decide) (by decide)).mpr small
  have written : text.toList = (if decide (n < 0) then ['-'] else []) ++ natText n.natAbs := by
    rw [intText_of_intText? shown, intText]
    by_cases negative : n < 0 <;> simp [negative]
  have value : (if decide (n < 0) = true then -(decimal (natText n.natAbs) : Int)
      else decimal (natText n.natAbs)) = n := by
    rw [decimal_natText]
    simp only [decide_eq_true_eq]
    split <;> omega
  rw [written]
  refine readAs_number (natText_start_digit _) fun head rest follows => ?_
  rw [unsignedNumber_int (isWhole_natText _) short follows, value]

theorem magnitude_start (rank : Nat) :
    ∃ d more, script.magnitude rank = d :: more ∧ d.isDigit := by
  unfold Notation.magnitude
  split
  · exact ⟨'0', _, rfl, rfl⟩
  dsimp only
  obtain ⟨d, more, text, digit⟩ := natText_start_digit (Shortest.shortest rank).digits
  rw [text]
  split
  · unfold Notation.positional
    split
    · exact ⟨'0', _, rfl, rfl⟩
    split
    · exact ⟨d, _, rfl, digit⟩
    · rename_i some _
      obtain ⟨k, hk⟩ := Nat.exists_eq_succ_of_ne_zero (fun none => some (Int.toNat_eq_zero.mp none))
      rw [hk]
      exact ⟨d, _, rfl, digit⟩
  · cases more with
    | nil => exact ⟨d, _, rfl, digit⟩
    | cons d' more => exact ⟨d, _, rfl, digit⟩

theorem readAs_float (x : Binary64) : ReadAs (script.write x).toList (.float x) := by
  cases x with
  | nan => exact readAs_word (w := ("NaN", .float .nan)) (by simp [words])
  | signed negative rank =>
    by_cases infinite : rank.val = Binary64.top
    · obtain rfl : rank = ⟨Binary64.top, Nat.lt_succ_self _⟩ := Fin.ext infinite
      cases negative with
      | false => exact readAs_word (w := ("Infinity", .float (.infinity false))) (by simp [words])
      | true => exact readAs_word (w := ("-Infinity", .float (.infinity true))) (by simp [words])
    · have finite : rank.val < Binary64.top := by omega
      have written : (script.write (.signed negative rank)).toList =
          (if negative then ['-'] else []) ++ script.magnitude rank.val := by
        rw [Notation.write, if_neg infinite]
        cases negative <;> simp
      rw [written]
      exact readAs_number (magnitude_start _) fun head rest follows =>
        unsignedNumber_magnitude finite follows

/-- The characters of a string between its quotes. -/
def quotedChars (cs : List Char) : List Char := '"' :: (cs.flatMap escape ++ ['"'])

theorem readAs_text (cs : List Char) : ReadAs (quotedChars cs) (.text (.ofChars cs)) := by
  refine .of_succ ⟨'"', _, rfl, rfl, by decide⟩ fun fuel rest _ _ => ?_
  have inside : quotedChars cs ++ rest = '"' :: (cs.flatMap escape ++ '"' :: rest) := by
    simp [quotedChars]
  have read : value (fuel + 1) ('"' :: (cs.flatMap escape ++ '"' :: rest)) =
      (string (cs.flatMap escape ++ '"' :: rest)).map fun r => (.text r.1, r.2) := rfl
  rw [inside, read, string_flatMap]
  rfl

theorem Starts.append {text : List Char} (starts : Starts text) (behind : List Char) :
    Starts (text ++ behind) := by
  obtain ⟨c, more, rfl, plain⟩ := starts
  exact ⟨c, more ++ behind, rfl, plain⟩

theorem Starts.intercalate {text : List Char} (starts : Starts text) (between : List Char)
    (texts : List (List Char)) : Starts (between.intercalate (text :: texts)) := by
  cases texts with
  | nil => rwa [List.intercalate_singleton]
  | cons text' texts =>
    rw [List.intercalate_cons_cons, List.append_assoc]
    exact starts.append _

/-- The characters of a line break with its indentation. -/
def lineBreak (level : Nat) : List Char := '\n' :: List.replicate (2 * level) ' '

/-- A line break and the blanks behind it are skipped. -/
theorem skipSpace_lineBreak (level : Nat) {c : Char} (plain : isSpace c = false) (more : List Char) :
    skipSpace (lineBreak level ++ c :: more) = c :: more := by
  have blank : ∀ c ∈ lineBreak level, isSpace c = true := by
    intro c hc
    rcases List.mem_cons.mp hc with rfl | blank
    · rfl
    · rw [List.eq_of_mem_replicate blank]
      rfl
  rw [skipSpace, List.dropWhile_append_of_pos blank, List.dropWhile_cons_of_neg (by simp [plain])]

theorem Starts.skipSpace {text : List Char} (starts : Starts text) (level : Nat) :
    skipSpace (lineBreak level ++ text) = text := by
  obtain ⟨c, more, rfl, plain, -⟩ := starts
  exact skipSpace_lineBreak level plain more

theorem follows_lineBreak (level : Nat) (cs : List Char) : Follows (lineBreak level ++ cs) := by
  intro c hc
  rw [lineBreak, List.cons_append, List.head?_cons, Option.mem_some_iff] at hc
  exact Or.inr hc.symm

/-- Letters as the characters that they are, or that are read in their place. -/
def chars (letters : List Letter) : List Char := letters.map Letter.standIn

@[simp] theorem chars_append (front behind : List Letter) :
    chars (front ++ behind) = chars front ++ chars behind :=
  List.map_append

@[simp] theorem chars_cons (l : Letter) (letters : List Letter) :
    chars (l :: letters) = l.standIn :: chars letters := rfl

theorem chars_map_char (cs : List Char) : chars (cs.map .char) = cs :=
  Letter.map_standIn_char cs

@[simp] theorem chars_newline (level : Nat) : chars (newline level) = lineBreak level := by
  simp [chars, newline, lineBreak]

/-- What stands between two parts at a level. -/
def separator (level : Nat) : List Char := ',' :: lineBreak level

theorem length_separator (level : Nat) : 1 ≤ (separator level).length := by
  simp [separator]

theorem follows_separator (level : Nat) (cs : List Char) : Follows (separator level ++ cs) := by
  intro c hc
  rw [separator, List.cons_append, List.head?_cons, Option.mem_some_iff] at hc
  exact Or.inl hc.symm

theorem skipSpace_separator (level : Nat) (cs : List Char) :
    skipSpace (separator level ++ cs) = ',' :: (lineBreak level ++ cs) := rfl

theorem chars_intercalate (between : List Letter) (texts : List (List Letter)) :
    chars (between.intercalate texts) = (chars between).intercalate (texts.map chars) := by
  induction texts with
  | nil => rfl
  | cons text texts ih =>
    cases texts with
    | nil => simp
    | cons text' texts =>
      rw [List.intercalate_cons_cons, chars_append, chars_append, ih]
      exact (List.intercalate_cons_cons ..).symm

theorem chars_bracketed (level : Nat) (opening closing : Char) (text : List Letter)
    (texts : List (List Letter)) (rest : List Char) :
    chars (bracketed level opening closing (text :: texts)) ++ rest =
      opening :: (lineBreak (level + 1) ++ ((separator (level + 1)).intercalate
        (chars text :: texts.map chars) ++ (lineBreak level ++ closing :: rest))) := by
  simp [bracketed, separator, chars_intercalate]
  rfl

theorem items_last {text : List Char} {v : Value} (read : ReadAs text v) {fuel : Nat}
    (enough : text.length ≤ fuel) (level : Nat) (rest : List Char) (done : List Value) :
    items (fuel + 1) (text ++ (lineBreak level ++ ']' :: rest)) done =
      .ok (done.reverse ++ [v], rest) := by
  have closes : skipSpace (lineBreak level ++ ']' :: rest) = ']' :: rest :=
    skipSpace_lineBreak level rfl rest
  rw [items, read.read fuel _ enough (follows_lineBreak level _)]
  simp [closes]

theorem items_next {text cs : List Char} {v : Value} (read : ReadAs text v) (starts : Starts cs)
    {fuel : Nat} (enough : text.length ≤ fuel) (level : Nat) (done : List Value) :
    items (fuel + 1) (text ++ (separator level ++ cs)) done = items fuel cs (v :: done) := by
  rw [items, read.read fuel _ enough (follows_separator level _)]
  simp [skipSpace_separator, starts.skipSpace]

/-- The items of a list are read one by one up to the closing bracket. -/
theorem items_readAs {level : Nat} {texts : List (List Char)} {vs : List Value}
    (read : List.Forall₂ ReadAs texts vs) (some : texts ≠ []) {fuel : Nat}
    (enough : ((separator (level + 1)).intercalate texts).length < fuel) (rest : List Char)
    (done : List Value) :
    items fuel ((separator (level + 1)).intercalate texts ++ (lineBreak level ++ ']' :: rest)) done =
      .ok (done.reverse ++ vs, rest) := by
  induction read generalizing fuel done with
  | nil => exact absurd rfl some
  | @cons text v texts vs first others ih =>
    obtain ⟨fuel, rfl⟩ : ∃ k, fuel = k + 1 := ⟨fuel - 1, by omega⟩
    cases others with
    | nil =>
      rw [List.intercalate_singleton] at enough ⊢
      exact items_last first (by omega) level rest done
    | @cons text' v' texts' vs' second others =>
      have between := length_separator (level + 1)
      rw [List.intercalate_cons_cons, List.length_append, List.length_append] at enough
      rw [List.intercalate_cons_cons, List.append_assoc, List.append_assoc,
        items_next first ((second.starts.intercalate _ texts').append _) (by omega),
        ih (by simp) (by omega)]
      simp

theorem value_items {fuel : Nat} {level : Nat} {cs : List Char} (starts : Starts cs) :
    value (fuel + 1) ('[' :: (lineBreak level ++ cs)) =
      (items fuel cs []).map fun r => (.list r.1, r.2) := by
  obtain ⟨c, more, rfl, plain, other⟩ := starts
  rw [value, skipSpace_lineBreak level plain]
  split
  · rename_i same
    exact absurd (List.cons.inj same).1 other.1
  · rfl

theorem readAs_list {level : Nat} {texts : List (List Letter)} {vs : List Value}
    (read : List.Forall₂ (fun text v => ReadAs (chars text) v) texts vs) :
    ReadAs (chars (bracketed level '[' ']' texts)) (.list vs) := by
  cases read with
  | nil => exact .of_succ ⟨'[', _, rfl, rfl, by decide⟩ fun fuel rest _ _ => rfl
  | @cons text v texts vs first others =>
    have others := List.forall₂_map_left_iff.mpr others
    refine .of_succ ⟨'[', _, rfl, rfl, by decide⟩ fun fuel rest enough _ => ?_
    have written := chars_bracketed level '[' ']' text texts rest
    have length : ((separator (level + 1)).intercalate
        (chars text :: texts.map chars)).length < fuel := by
      have := congrArg List.length written
      simp only [List.length_append, List.length_cons, lineBreak] at this
      omega
    rw [written, value_items ((first.starts.intercalate _ _).append _),
      items_readAs (.cons first others) (by simp) length]
    rfl

/-- A text is read as an entry of a mapping. -/
def EntryAs (text : List Char) (e : Atom × Value) : Prop :=
  ∃ name inside, text = quotedChars name ++ ':' :: ' ' :: inside ∧ e.1 = .text (.ofChars name) ∧
    ReadAs inside e.2

theorem EntryAs.starts {text : List Char} {e : Atom × Value} (read : EntryAs text e) :
    Starts text := by
  obtain ⟨name, inside, rfl, -⟩ := read
  exact ⟨'"', _, rfl, rfl, by decide⟩

/-- What the reader does with what stands behind an entry. -/
def afterEntry (fuel : Nat) (done : Entries) : List Char → Read Entries
  | '\x7d' :: after => .ok (done, after)
  | ',' :: rest => members fuel (skipSpace rest) done
  | other => refuse .noComma other

/-- Behind its name and the colon an entry has its value. -/
theorem members_entry {text behind : List Char} {e : Atom × Value} (read : EntryAs text e)
    {fuel : Nat} (enough : text.length ≤ fuel) (follows : Follows behind) (done : Entries) :
    members (fuel + 1) (text ++ behind) done =
      afterEntry fuel (done.put e.1 e.2) (skipSpace behind) := by
  obtain ⟨name, inside, rfl, key, value⟩ := read
  obtain ⟨k, v⟩ := e
  obtain rfl : k = .text (.ofChars name) := key
  have colon (cs : List Char) : skipSpace (':' :: cs) = ':' :: cs := rfl
  have blank : skipSpace (' ' :: (inside ++ behind)) = inside ++ behind := by
    obtain ⟨c, more, rfl, plain, -⟩ := value.starts
    rw [skipSpace, List.dropWhile_cons_of_pos rfl, List.cons_append,
      List.dropWhile_cons_of_neg (by simp [plain])]
  have written : quotedChars name ++ ':' :: ' ' :: inside ++ behind =
      '"' :: (name.flatMap escape ++ '"' :: ':' :: ' ' :: (inside ++ behind)) := by
    simp [quotedChars]
  have short : inside.length ≤ fuel := by
    simp only [List.length_append, List.length_cons] at enough
    omega
  rw [written, members, string_flatMap]
  simp only [colon, blank, value.read fuel behind short follows]
  rfl

theorem members_last {text : List Char} {e : Atom × Value} (read : EntryAs text e) {fuel : Nat}
    (enough : text.length ≤ fuel) (level : Nat) (rest : List Char) (done : Entries) :
    members (fuel + 1) (text ++ (lineBreak level ++ '\x7d' :: rest)) done =
      .ok (done.put e.1 e.2, rest) := by
  have closes : skipSpace (lineBreak level ++ '\x7d' :: rest) = '\x7d' :: rest :=
    skipSpace_lineBreak level rfl rest
  rw [members_entry read enough (follows_lineBreak level _), closes]
  rfl

theorem members_next {text cs : List Char} {e : Atom × Value} (read : EntryAs text e)
    (starts : Starts cs) {fuel : Nat} (enough : text.length ≤ fuel) (level : Nat)
    (done : Entries) :
    members (fuel + 1) (text ++ (separator level ++ cs)) done =
      members fuel cs (done.put e.1 e.2) := by
  rw [members_entry read enough (follows_separator level _), skipSpace_separator, afterEntry,
    starts.skipSpace]

/-- The entries of a mapping are read one by one up to the closing brace. -/
theorem members_readAs {level : Nat} {texts : List (List Char)} {es : Entries}
    (read : List.Forall₂ EntryAs texts es) (some : texts ≠ []) {fuel : Nat}
    (enough : ((separator (level + 1)).intercalate texts).length < fuel) (rest : List Char)
    {done : Entries} (distinct : (done ++ es).keys.Nodup) :
    members fuel ((separator (level + 1)).intercalate texts ++ (lineBreak level ++ '\x7d' :: rest))
      done = .ok (done ++ es, rest) := by
  induction read generalizing fuel done with
  | nil => exact absurd rfl some
  | @cons text e texts es first others ih =>
    obtain ⟨fuel, rfl⟩ : ∃ k, fuel = k + 1 := ⟨fuel - 1, by omega⟩
    have put : done.put e.1 e.2 = done ++ [e] := by
      obtain ⟨name, -, -, key, -⟩ := first
      obtain ⟨k, v⟩ := e
      obtain rfl : k = .text (.ofChars name) := key
      refine Entries.put_of_notMem (fun known => ?_) v
      rw [Entries.keys, List.map_append, List.map_cons] at distinct
      exact (List.disjoint_of_nodup_append distinct) known List.mem_cons_self
    cases others with
    | nil =>
      rw [List.intercalate_singleton] at enough ⊢
      rw [members_last first (by omega), put]
    | @cons text' e' texts' es' second others =>
      have between := length_separator (level + 1)
      rw [List.intercalate_cons_cons, List.length_append, List.length_append] at enough
      rw [List.intercalate_cons_cons, List.append_assoc, List.append_assoc,
        members_next first ((second.starts.intercalate _ texts').append _) (by omega), put,
        ih (by simp) (by omega) (by simpa using distinct)]
      simp

theorem value_members {fuel level : Nat} {cs : List Char} (starts : Starts cs) :
    value (fuel + 1) ('\x7b' :: (lineBreak level ++ cs)) =
      (members fuel cs []).map fun r => (.map r.1, r.2) := by
  obtain ⟨c, more, rfl, plain, -, other, -⟩ := starts
  rw [value, skipSpace_lineBreak level plain]
  split
  · rename_i same
    exact absurd (List.cons.inj same).1 other
  · rfl

theorem readAs_map {level : Nat} {texts : List (List Letter)} {es : Entries}
    (read : List.Forall₂ (fun text e => EntryAs (chars text) e) texts es)
    (distinct : es.keys.Nodup) : ReadAs (chars (bracketed level '\x7b' '\x7d' texts)) (.map es) := by
  cases read with
  | nil => exact .of_succ ⟨'\x7b', _, rfl, rfl, by decide⟩ fun fuel rest _ _ => rfl
  | @cons text e texts es first others =>
    have others := List.forall₂_map_left_iff.mpr others
    refine .of_succ ⟨'\x7b', _, rfl, rfl, by decide⟩ fun fuel rest enough _ => ?_
    have written := chars_bracketed level '\x7b' '\x7d' text texts rest
    have length : ((separator (level + 1)).intercalate
        (chars text :: texts.map chars)).length < fuel := by
      have := congrArg List.length written
      simp only [List.length_append, List.length_cons, lineBreak] at this
      omega
    rw [written, value_members ((first.starts.intercalate _ _).append _),
      members_readAs (.cons first others) (by simp) length rest (by simpa using distinct)]
    rfl

theorem exists_of_bind_ok {ε α β : Type} {x : Except ε α} {f : α → Except ε β} {b : β}
    (done : (x >>= f) = .ok b) : ∃ a, x = .ok a ∧ f a = .ok b := by
  cases x with
  | error fault => cases done
  | ok a => exact ⟨a, rfl, done⟩

/-- What holds of the text of every item holds of the texts of a list. -/
theorem forall₂_writeItems {P : List Letter → Value → Prop} {level : Nat} {vs : List Value}
    (parts : ∀ v ∈ vs, ∀ text, writeAt level v = .ok text → P text v) {texts : List (List Letter)}
    (written : writeItems level vs = .ok texts) : List.Forall₂ P texts vs := by
  induction vs generalizing texts with
  | nil =>
    cases written
    exact .nil
  | cons v vs ih =>
    rw [writeItems] at written
    obtain ⟨first, hv, written⟩ := exists_of_bind_ok written
    obtain ⟨others, hvs, done⟩ := exists_of_bind_ok written
    cases done
    exact .cons (parts v List.mem_cons_self first hv)
      (ih (fun v' hv' => parts v' (List.mem_cons_of_mem _ hv')) hvs)

/-- What holds of the texts of every entry's key and value holds of the texts of a mapping. -/
theorem forall₂_writeMembers {P : List Letter → Value → Prop} {level : Nat} {es : Entries}
    (parts : ∀ e ∈ es, ∀ text, writeAt level e.2 = .ok text → P text e.2)
    {texts : List (List Letter)} (written : writeMembers level es = .ok texts) :
    List.Forall₂ (fun text e => e ∈ es ∧ ∃ name inside, key e.1 = .ok name ∧ P inside e.2 ∧
      text = name ++ .char ':' :: .char ' ' :: inside) texts es := by
  induction es generalizing texts with
  | nil =>
    cases written
    exact .nil
  | cons e es ih =>
    obtain ⟨k, v⟩ := e
    rw [writeMembers] at written
    obtain ⟨name, hk, written⟩ := exists_of_bind_ok written
    obtain ⟨first, hv, written⟩ := exists_of_bind_ok written
    obtain ⟨others, hes, done⟩ := exists_of_bind_ok written
    cases done
    have rest := ih (fun e he => parts e (List.mem_cons_of_mem _ he)) hes
    refine .cons ⟨List.mem_cons_self, name, first, hk, parts _ List.mem_cons_self first hv, rfl⟩
      (rest.imp fun text e => ?_)
    exact And.imp_left (List.mem_cons_of_mem _)

theorem writeAt_list {level : Nat} {vs : List Value} {text : List Letter}
    (written : writeAt level (.list vs) = .ok text) :
    ∃ texts, writeItems (level + 1) vs = .ok texts ∧ text = bracketed level '[' ']' texts := by
  rw [writeAt] at written
  obtain ⟨texts, parts, done⟩ := exists_of_bind_ok written
  exact ⟨texts, parts, (Except.ok.inj done).symm⟩

theorem writeAt_map {level : Nat} {es : Entries} {text : List Letter}
    (written : writeAt level (.map es) = .ok text) :
    ∃ texts, writeMembers (level + 1) es = .ok texts ∧
      text = bracketed level '\x7b' '\x7d' texts := by
  rw [writeAt] at written
  obtain ⟨texts, parts, done⟩ := exists_of_bind_ok written
  exact ⟨texts, parts, (Except.ok.inj done).symm⟩

/-- A whole number that is written has its text. -/
theorem atom_int {n : Int} {text : List Letter} (written : atom (.int n) = .ok text) :
    ∃ shown, intText? n = some shown ∧ text = shown.toList.map .char := by
  unfold atom plainText at written
  dsimp only at written
  cases hn : intText? n with
  | none =>
    rw [hn] at written
    cases written
  | some shown =>
    rw [hn] at written
    exact ⟨shown, rfl, (Except.ok.inj written).symm.trans (Text.toList_ofString shown)⟩

theorem map_char_chars {letters : List Letter} (whole : Whole letters) :
    (chars letters).map .char = letters := by
  rw [chars, List.map_map]
  refine (List.map_congr_left fun l hl => ?_).trans (List.map_id letters)
  have character := whole l hl
  cases l with
  | char c => rfl
  | surrogate n => cases character

theorem subset_intercalate {α : Type} {between text : List α} {texts : List (List α)}
    (known : text ∈ texts) : text ⊆ between.intercalate texts := by
  induction texts with
  | nil => cases known
  | cons first texts ih =>
    cases texts with
    | nil =>
      rw [List.mem_singleton.mp known, List.intercalate_singleton]
      exact List.Subset.refl _
    | cons second texts =>
      rw [List.intercalate_cons_cons]
      rcases List.mem_cons.mp known with rfl | later
      · exact List.subset_append_of_subset_left _ (List.subset_append_left _ _)
      · exact List.subset_append_of_subset_right _ (ih later)

/-- A part of a written list or mapping stands in its text. -/
theorem subset_bracketed {level : Nat} {opening closing : Letter} {text : List Letter}
    {texts : List (List Letter)} (known : text ∈ texts) :
    text ⊆ bracketed level opening closing texts := by
  have inside : text ⊆ List.intercalate (.char ',' :: newline (level + 1)) texts :=
    subset_intercalate known
  cases texts with
  | nil => cases known
  | cons first texts =>
    intro l hl
    simp [bracketed, inside hl]

/-- The text of a written string is made of characters if all that is written is. -/
theorem exists_of_whole_quoted {s : Text} (whole : Whole (quoted s)) :
    ∃ cs, s = .ofChars cs ∧ chars (quoted s) = quotedChars cs := by
  have letters : Whole s.toList := by
    intro l hl
    cases l with
    | char c => rfl
    | surrogate n =>
      refine whole (.surrogate n) (List.mem_cons_of_mem _ (List.mem_append_left _ ?_))
      exact List.mem_flatMap.mpr ⟨_, hl, List.mem_singleton_self _⟩
  refine ⟨chars s.toList, Text.ext (map_char_chars letters).symm, ?_⟩
  rw [quoted, ← map_char_chars letters, chars_map_char, quotedChars]
  simp [chars, List.map_flatMap, List.flatMap_map, escapeLetter, Function.comp_def]

theorem readAs_scalar {s : Scalar} {text : List Letter} (written : atom (.scalar s) = .ok text)
    (whole : Whole text) : ReadAs (chars text) (.scalar s) := by
  cases s with
  | text t =>
    obtain rfl : quoted t = text := Except.ok.inj written
    obtain ⟨cs, rfl, same⟩ := exists_of_whole_quoted whole
    rw [same]
    exact readAs_text cs
  | int n =>
    obtain ⟨shown, hn, rfl⟩ := atom_int written
    rw [chars_map_char]
    exact readAs_int hn
  | float x =>
    obtain rfl : (script.write x : Text).toList = text := Except.ok.inj written
    rw [Text.toList_ofString, chars_map_char]
    exact readAs_float x

/-- A value that a JSON text can have is read from its written text, if that is made of characters. -/
theorem readAs_writeAt {v : Value} (ofJson : v.OfJson) {level : Nat} {text : List Letter}
    (written : writeAt level v = .ok text) (whole : Whole text) : ReadAs (chars text) v := by
  induction ofJson generalizing level text with
  | null =>
    cases written
    exact readAs_word (w := ("null", .null)) (by simp [words])
  | bool b =>
    cases b <;> cases written
    · exact readAs_word (w := ("false", .bool false)) (by simp [words])
    · exact readAs_word (w := ("true", .bool true)) (by simp [words])
  | scalar s => exact readAs_scalar (by rwa [writeAt] at written) whole
  | list all ih =>
    obtain ⟨texts, parts, rfl⟩ := writeAt_list written
    have read := forall₂_writeItems (P := fun text v => Whole text → ReadAs (chars text) v)
      (fun v hv text inside => ih v hv inside) parts
    have clean : ∀ text ∈ texts, Whole text := fun text known => whole.subset (subset_bracketed known)
    have both := (List.forall₂_and_left _ _).mpr ⟨clean, read⟩
    exact readAs_list (both.imp fun text v known => known.2 known.1)
  | @map es names distinct all ih =>
    obtain ⟨texts, parts, rfl⟩ := writeAt_map written
    have read := forall₂_writeMembers (P := fun text v => Whole text → ReadAs (chars text) v)
      (fun e he text inside => ih e he inside) parts
    have clean : ∀ text ∈ texts, Whole text := fun text known => whole.subset (subset_bracketed known)
    have both := (List.forall₂_and_left _ _).mpr ⟨clean, read⟩
    refine readAs_map (both.imp fun text e => ?_) distinct
    rintro ⟨whole, he, shown, inside, hkey, value, rfl⟩
    obtain ⟨name, hname⟩ := names e he
    rw [hname] at hkey
    obtain rfl : quoted name = shown := Except.ok.inj hkey
    obtain ⟨cs, rfl, same⟩ := exists_of_whole_quoted (whole.subset (List.subset_append_left _ _))
    refine ⟨cs, chars inside, by simp [same], hname, value (whole.subset ?_)⟩
    exact List.subset_append_of_subset_right _ fun l hl => by simp [hl]

end Json

end DesignTokens
