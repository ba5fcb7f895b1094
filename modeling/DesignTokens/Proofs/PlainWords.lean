import DesignTokens.Proofs.JsonSpelling
import DesignTokens.Proofs.Pieces
import DesignTokens.Yaml.Scalar

/-!
# Words of JSON in YAML

A word gets its tag from its look. The words for null and truth values and the whole numbers look the
same in both notations, and so do the decimals whose exponent, if there is one, has a sign. Any other
word is a text: a number with an exponent that lacks the point or the sign, infinity, and "not a
number".
-/

namespace DesignTokens

open Json (Numeral Power Word NoDigit digitChars numberChars mem_digitChars)

/-- A number that both notations read alike: an exponent has a sign and stands behind a fraction. -/
def Json.Numeral.isCommon (n : Numeral) : Bool :=
  n.power.all fun p => p.sign.isSome && !n.fraction.isEmpty

def Json.Word.isCommon : Word → Bool
  | .named name _ _ => ["null", "true", "false"].contains name
  | .number n => n.isCommon

/-- The value of a word in YAML. -/
def Json.Word.plain (w : Word) : Value := if w.isCommon then w.value else .text (.ofChars w.text)

namespace Yaml

theorem signed_digit {d : Char} {cs : List Char} (digit : d.isDigit) :
    Literal.signed (d :: cs) = (false, d :: cs) := by
  unfold Literal.signed
  split
  · rename_i h
    cases h
    cases digit
  · rename_i h
    cases h
    cases digit
  · rfl

theorem signed_text (n : Numeral) : Literal.signed n.text = (n.negative, n.magnitudeText) := by
  obtain ⟨d, cs, digit, text⟩ := n.exists_digit
  unfold Numeral.text
  cases n.negative with
  | true => rfl
  | false =>
    rw [text]
    exact signed_digit digit

theorem isDigitOrLine_of_isDigit {c : Char} (digit : c.isDigit) : isDigitOrLine c := by
  simp [isDigitOrLine, digit]

theorem isDigits_whole (n : Numeral) : isDigits n.whole := by
  obtain ⟨d, ds, whole⟩ := List.exists_cons_of_ne_nil n.isWhole.ne_nil
  have digits := n.isWhole.digits
  rw [whole] at digits ⊢
  obtain ⟨first, digits⟩ := List.forall_mem_cons.mp digits
  rw [isDigits, first, Bool.true_and]
  exact List.all_eq_true.mpr fun c hc => isDigitOrLine_of_isDigit (digits c hc)

/-- Without a colon nothing counts by sixties. -/
theorem isSexagesimal_eq_false {p : List Char → Bool} {cs : List Char} (free : ':' ∉ cs) :
    isSexagesimal p cs = false := by
  rw [isSexagesimal, Text.pieces_of_notMem free]

theorem isExponentOrNone_powerText (n : Numeral) :
    isExponentOrNone n.powerText = n.power.all fun p => p.sign.isSome := by
  unfold Numeral.powerText
  cases n.power with
  | none => rfl
  | some p =>
    have letter : (p.letter = 'e' || p.letter = 'E') = true := by simpa using p.isLetter
    obtain ⟨d, ds, digits⟩ := List.exists_cons_of_ne_nil p.nonempty
    have all := p.allDigits
    rw [digits] at all
    simp only [Option.elim, Power.text, Power.signText, Option.all_some]
    cases p.sign with
    | some down =>
      have run : isRun Char.isDigit p.digits := by simpa [isRun, digits] using all
      cases down <;> simp [isExponentOrNone, letter, run]
    | none =>
      obtain ⟨first, -⟩ := List.forall_mem_cons.mp all
      have plus : d ≠ '+' := by
        rintro rfl
        cases first
      have minus : d ≠ '-' := by
        rintro rfl
        cases first
      simp [isExponentOrNone, digits, plus, minus]

theorem dropWhile_isDigitOrLine (n : Numeral) :
    (n.fraction ++ n.powerText).dropWhile isDigitOrLine = n.powerText := by
  rw [List.dropWhile_append_of_pos fun c hc => isDigitOrLine_of_isDigit (n.allDigits c hc)]
  cases h : n.powerText with
  | nil => rfl
  | cons c cs =>
    have first := n.powerText_head c (by rw [h]; rfl)
    rw [List.dropWhile_cons_of_neg]
    rcases first with rfl | rfl <;> decide

theorem point_notMem_powerText (n : Numeral) : ∀ c ∈ n.powerText, (c ≠ '.' : Bool) = true := by
  unfold Numeral.powerText
  cases n.power with
  | none => exact fun c hc => absurd hc List.not_mem_nil
  | some p =>
    have all : Json.powerChars.all fun c => c ≠ '.' := by decide
    exact fun c hc => List.all_eq_true.mp all c (p.chars c hc)

theorem head?_text_ne_point (n : Numeral) : n.text.head? ≠ some '.' := by
  obtain ⟨d, cs, digit, text⟩ := n.exists_digit
  unfold Numeral.text
  rw [text]
  split
  · exact fun h => absurd (Option.some.inj h) (by decide)
  · rintro ⟨⟩
    cases digit

theorem looksDouble_text (n : Numeral) :
    looksDouble n.text = (!n.fraction.isEmpty && n.power.all fun p => p.sign.isSome) := by
  have whole : ∀ c ∈ n.whole, (c ≠ '.' : Bool) = true := by
    intro c hc
    rw [decide_eq_true_iff]
    rintro rfl
    cases n.isWhole.digits _ hc
  unfold looksDouble
  rw [signed_text]
  dsimp only
  rw [Numeral.magnitudeText, List.takeWhile_append_of_pos whole, List.dropWhile_append_of_pos whole]
  by_cases point : n.fraction = []
  · have none : (n.fractionText ++ n.powerText).dropWhile (· ≠ '.') = [] := by
      rw [Numeral.fractionText, if_pos point, List.nil_append]
      exact List.dropWhile_eq_nil_iff.mpr (point_notMem_powerText n)
    rw [none, point]
    rfl
  · have free : ':' ∉ n.whole := fun h => by cases n.isWhole.digits _ h
    have some_whole : n.whole.isEmpty = false := by simpa using n.isWhole.ne_nil
    have some_fraction : n.fraction.isEmpty = false := by simpa using point
    simp [Numeral.fractionText, point, dropWhile_isDigitOrLine, isDigits_whole,
      isSexagesimal_eq_false free, some_whole, some_fraction, isExponentOrNone_powerText,
      head?_text_ne_point]

theorem isDigits_magnitudeText (n : Numeral) : isDigits n.magnitudeText = n.tail.isEmpty := by
  obtain ⟨d, more, whole⟩ := List.exists_cons_of_ne_nil n.isWhole.ne_nil
  have all := n.isWhole.digits
  rw [whole] at all
  obtain ⟨first, all⟩ := List.forall_mem_cons.mp all
  have line : more.all isDigitOrLine :=
    List.all_eq_true.mpr fun c hc => isDigitOrLine_of_isDigit (all c hc)
  have shape : n.magnitudeText = n.whole ++ n.tail := rfl
  rw [shape, whole, List.cons_append, isDigits, first, List.all_append, line, Bool.true_and,
    Bool.true_and]
  cases h : n.tail with
  | nil => rfl
  | cons c cs => rcases n.tail_head c (by rw [h]; rfl) with rfl | rfl | rfl <;> rfl

theorem looksInteger_text (n : Numeral) :
    looksInteger n.text = (n.fraction.isEmpty && n.power.isNone) := by
  have shape : n.magnitudeText = n.whole ++ n.tail := rfl
  have free : ':' ∉ n.magnitudeText := fun h => absurd (n.magnitude_chars _ h) (by decide)
  have none : (n.fraction.isEmpty && n.power.isNone) = n.tail.isEmpty := by
    rw [Bool.eq_iff_iff, List.isEmpty_iff, n.tail_eq_nil]
    simp
  rw [none]
  unfold looksInteger
  rw [signed_text]
  dsimp only
  rcases n.isWhole.start with whole | ⟨d, more, whole, nonzero⟩
  · rw [shape, whole]
    cases h : n.tail with
    | nil => rfl
    | cons c cs =>
      rcases n.tail_head c (by rw [h]; rfl) with rfl | rfl | rfl <;> rfl
  · have head : n.magnitudeText.head? = some d := by rw [shape, whole]; rfl
    have other {cs : List Char} : n.magnitudeText ≠ '0' :: cs := by
      intro zero
      rw [zero] at head
      exact nonzero (Option.some.inj head).symm
    split
    · exact absurd ‹_› other
    · exact absurd ‹_› other
    · exact absurd ‹_› other
    · rw [isCounting, isDigits_magnitudeText, head, isSexagesimal_eq_false free]
      simp [nonzero]

theorem withoutLineEnd_eq {cs : List Char} (free : '\n' ∉ cs) : withoutLineEnd cs = cs :=
  if_neg fun last => free (List.mem_of_getLast? last)

theorem digitsUpTo_eq_some {least most : Nat} {cs ds rest : List Char}
    (read : digitsUpTo least most cs = some (ds, rest)) :
    cs = ds ++ rest ∧ (∀ d ∈ ds, d.isDigit) ∧ least ≤ ds.length := by
  unfold digitsUpTo at read
  dsimp only at read
  split at read
  · cases read
  · rename_i enough
    cases read
    have starts : (cs.take most).takeWhile Char.isDigit <+: cs :=
      (List.takeWhile_prefix _).trans (List.take_prefix most cs)
    exact ⟨(List.prefix_append_drop starts), fun d hd => List.mem_takeWhile_imp hd,
      Nat.le_of_not_lt enough⟩

theorem markOf_eq_some {c : Char} {cs rest : List Char} (read : markOf c cs = some rest) :
    cs = c :: rest := by
  unfold markOf at read
  split at read
  · cases read
  · split at read
    · rename_i same
      cases read
      rw [same]
    · cases read

/-- A timestamp starts with the digits of a year and a dash. -/
theorem exists_year {cs : List Char} (t : timestamp? cs ≠ none) :
    ∃ ds rest, cs = ds ++ '-' :: rest ∧ (∀ d ∈ ds, d.isDigit) ∧ ds ≠ [] := by
  cases hyear : digitsUpTo 4 4 cs with
  | none => exact absurd (by rw [timestamp?, hyear]; rfl) t
  | some year =>
    obtain ⟨text, digits, four⟩ := digitsUpTo_eq_some hyear
    cases hmark : markOf '-' year.2 with
    | none => exact absurd (by rw [timestamp?, hyear]; simp [hmark]) t
    | some rest =>
      refine ⟨year.1, rest, by rw [text, markOf_eq_some hmark], digits, ?_⟩
      rintro none
      rw [none] at four
      cases four

theorem looksTimestamp_text (n : Numeral) : looksTimestamp n.text = false := by
  have none : timestamp? n.text = none := by
    by_contra t
    obtain ⟨ds, rest, text, digits, nonempty⟩ := exists_year t
    obtain ⟨d, ds, rfl⟩ := List.exists_cons_of_ne_nil nonempty
    unfold Numeral.text at text
    split at text
    · rw [List.cons_append, List.cons.injEq] at text
      rw [← text.1] at digits
      cases digits '-' List.mem_cons_self
    · have mark : NoDigit ('-' :: rest) := by simp [NoDigit]
      have dash : n.tail = '-' :: rest := by
        rw [← Json.dropWhile_digits n.isWhole.digits n.tail_noDigit,
          ← Json.dropWhile_digits digits mark, ← text]
        rfl
      rcases n.tail_head '-' (by rw [dash]; rfl) with h | h | h <;> cases h
  rw [looksTimestamp, none]

/-- A word has none but its own letters. -/
theorem isWordOf_eq_false {word : String} {cs : List Char} {c : Char} (mem : c ∈ cs)
    (other : c ∉ word.toList ++ word.toList.map Char.toUpper) : isWordOf word cs = false := by
  rw [List.mem_append, not_or] at other
  have plain : cs ≠ word.toList := by
    rintro rfl
    exact other.1 mem
  have upper : cs ≠ word.toList.map Char.toUpper := by
    rintro rfl
    exact other.2 mem
  have capital : cs ≠ (word.toList.take 1).map Char.toUpper ++ word.toList.drop 1 := by
    rintro rfl
    rcases List.mem_append.mp mem with mem | mem
    · exact other.2 (List.map_subset _ (List.take_subset 1 _) mem)
    · exact other.1 (List.drop_subset 1 _ mem)
  simp only [isWordOf, plain, upper, capital, decide_false, Bool.or_self]

theorem looksWord_text (n : Numeral) : looksNull n.text = false ∧ looksTrue n.text = false := by
  obtain ⟨d, cs, digit, text⟩ := n.exists_digit
  have mem : d ∈ n.text := by
    unfold Numeral.text
    rw [text]
    split
    · exact List.mem_cons_of_mem _ List.mem_cons_self
    · exact List.mem_cons_self
  have words : ("null" :: truthWords.map Prod.fst).all fun w => digitChars.all fun c =>
      !((w.toList ++ w.toList.map Char.toUpper).contains c) := by decide
  have none : ∀ w ∈ "null" :: truthWords.map Prod.fst, isWordOf w n.text = false := by
    intro w hw
    have letters := List.all_eq_true.mp (List.all_eq_true.mp words w hw) d (mem_digitChars digit)
    exact isWordOf_eq_false mem (by simpa using letters)
  obtain ⟨null, truth⟩ := List.forall_mem_cons.mp none
  constructor
  · have tilde : n.text ≠ ['~'] := by
      intro h
      have := n.chars '~' (by rw [h]; exact List.mem_singleton_self _)
      exact absurd this (by decide)
    simp [looksNull, null, tilde]
  · exact List.any_eq_false.mpr fun w hw => by simp [truth w.1 (List.mem_map_of_mem hw)]

/-- The tag of a number. -/
theorem ofLook_text (n : Numeral) :
    Tag.ofLook (.ofChars n.text) =
      if n.fraction = [] then if n.power = none then .int else .text
      else if n.power.all fun p => p.sign.isSome then .float else .text := by
  have free : '\n' ∉ n.text := n.chars_ne (by decide)
  have single {c : Char} {cs : List Char} (other : c ∉ numberChars) : n.text ≠ c :: cs := by
    intro h
    exact n.chars_ne other (by rw [h]; exact List.mem_cons_self)
  have less : n.text ≠ ['<', '<'] := single (by decide)
  have equals : n.text ≠ ['='] := single (by decide)
  have bang : n.text ≠ ['!'] := single (by decide)
  have ampersand : n.text ≠ ['&'] := single (by decide)
  have star : n.text ≠ ['*'] := single (by decide)
  unfold Tag.ofLook
  simp only [Text.toList_ofChars, Letter.map_standIn_char, withoutLineEnd_eq free, looksWord_text,
    looksDouble_text, looksInteger_text, looksTimestamp_text, less, equals, bang, ampersand, star]
  by_cases point : n.fraction = [] <;> cases n.power <;> simp [point, n.text_ne_nil]

theorem loweredFrom_map_char (run cs : List Char) :
    Text.loweredFrom run (cs.map .char) = (Text.lowerFrom [] (run.reverse ++ cs)).map .char := by
  induction cs generalizing run with
  | nil => simp [Text.loweredFrom]
  | cons c cs ih => rw [List.map_cons, Text.loweredFrom, ih, List.reverse_cons, List.append_assoc]; rfl

theorem lowered_ofChars (cs : List Char) :
    Text.lowered (.ofChars cs) = .ofChars (Text.lowerFrom [] cs) :=
  congrArg Text.ofList (loweredFrom_map_char [] cs)

theorem lower_eq {cs : List Char} (chars : ∀ c ∈ cs, c ∈ numberChars) :
    Text.lowered (.ofChars cs) = .ofChars (cs.map fun c => if c = 'E' then 'e' else c) := by
  have single : numberChars.all fun c =>
      c ≠ '\u03A3' ∧ c ≠ '\u0130' ∧ Text.lowerChar c = if c = 'E' then 'e' else c := by
    decide +kernel
  have all (before : List Char) :
      Text.lowerFrom before cs = cs.map fun c => if c = 'E' then 'e' else c := by
    induction cs generalizing before with
    | nil => rfl
    | cons c cs ih =>
      obtain ⟨first, chars⟩ := List.forall_mem_cons.mp chars
      obtain ⟨sigma, dotted, lower⟩ := of_decide_eq_true (List.all_eq_true.mp single c first)
      rw [Text.lowerFrom, if_neg sigma, if_neg dotted, lower, ih chars]
      rfl
  rw [lowered_ofChars, all]

theorem trimmed_eq {cs : List Char} (chars : ∀ c ∈ cs, c ∈ numberChars) :
    Literal.trimmed cs = cs := by
  have single : numberChars.all fun c => !Literal.isMargin c := by decide +kernel
  have all {ds : List Char} (chars : ∀ c ∈ ds, c ∈ numberChars) :
      ds.dropWhile Literal.isMargin = ds := by
    cases ds with
    | nil => rfl
    | cons c ds =>
      have first := List.all_eq_true.mp single c (chars c List.mem_cons_self)
      exact List.dropWhile_cons_of_neg (by simpa using first)
  have reversed : ∀ c ∈ cs.reverse, c ∈ numberChars := fun c hc => chars c (List.mem_reverse.mp hc)
  rw [Literal.trimmed, Text.stripped, all chars, all reversed, List.reverse_reverse]

theorem map_asciiDigit {cs : List Char} (chars : ∀ c ∈ cs, c ∈ numberChars) :
    cs.map Literal.asciiDigit = cs := by
  have single : numberChars.all fun c => Literal.asciiDigit c = c := by decide +kernel
  have same : ∀ c ∈ cs, Literal.asciiDigit c = c :=
    fun c hc => of_decide_eq_true (List.all_eq_true.mp single c (chars c hc))
  rw [List.map_congr_left same, List.map_id']

theorem withoutUnderscores_text (n : Numeral) :
    withoutUnderscores (.ofChars n.text) = n.text.map .char := by
  rw [withoutUnderscores, Text.toList_ofChars, List.filter_eq_self]
  rintro l hl
  obtain ⟨c, hc, rfl⟩ := List.mem_map.mp hl
  rw [decide_eq_true_iff]
  rintro ⟨⟩
  exact n.chars_ne (by decide) hc

theorem signed_map_char (cs : List Char) :
    signed (cs.map .char) = ((Literal.signed cs).1, (Literal.signed cs).2.map .char) := by
  unfold Literal.signed
  split
  · rfl
  · rfl
  · rename_i minus plus
    cases cs with
    | nil => rfl
    | cons c cs =>
      unfold signed
      split
      · rename_i same
        obtain rfl := Letter.char.inj (List.cons.inj same).1
        exact absurd rfl (minus cs)
      · rename_i same
        obtain rfl := Letter.char.inj (List.cons.inj same).1
        exact absurd rfl (plus cs)
      · rfl

theorem signAndBody_text (n : Numeral) :
    signAndBody (n.text.map .char) = .ok (n.negative, n.magnitudeText.map .char) := by
  rw [signAndBody, if_neg (by simpa using n.text_ne_nil), signed_map_char, signed_text]

theorem baseDigit?_ten {c : Char} (digit : c.isDigit) :
    Literal.baseDigit? 10 c = some (Json.digitValue c) := by
  have all : digitChars.all fun c => Literal.baseDigit? 10 c = some (Json.digitValue c) := by
    decide +kernel
  simpa using List.all_eq_true.mp all c (mem_digitChars digit)

theorem integerOf_whole (n : Numeral) (short : n.whole.length ≤ maxDigits) :
    integerOf 10 (n.whole.map .char) = .ok (Json.decimal n.whole : Int) := by
  have chars : ∀ c ∈ n.whole, c ∈ numberChars :=
    fun c hc => Json.mem_numberChars (n.isWhole.digits c hc)
  have signed : Literal.signed n.whole = (false, n.whole) := by
    obtain ⟨d, ds, whole⟩ := List.exists_cons_of_ne_nil n.isWhole.ne_nil
    have digit := n.isWhole.digits d (whole ▸ List.mem_cons_self)
    rw [whole, signed_digit digit]
  have unmarked : Literal.dropBaseMark 10 n.whole = n.whole := by
    unfold Literal.dropBaseMark
    split
    · rw [if_neg]
      rintro ⟨-, mark⟩
      cases mark
    · rfl
  have run : n.whole.takeWhile (fun c => (Literal.baseDigit? 10 c).isSome) = n.whole :=
    List.takeWhile_eq_self_iff.mpr fun c hc => by rw [baseDigit?_ten (n.isWhole.digits c hc)]; rfl
  have values : n.whole.filterMap (Literal.baseDigit? 10) = n.whole.map Json.digitValue := by
    rw [← List.filterMap_eq_map]
    exact List.filterMap_congr fun c hc => baseDigit?_ten (n.isWhole.digits c hc)
  have some_digit : (n.whole.map Json.digitValue).isEmpty = false := by simpa using n.isWhole.ne_nil
  have number : Literal.integer 10 n.whole = .ok (Json.decimal n.whole : Int) := by
    unfold Literal.integer
    rw [trimmed_eq chars, signed]
    dsimp only
    rw [unmarked, run, values, some_digit, List.length_map]
    simp [Nat.not_lt.mpr short, Json.decimal, List.foldl_map]
  rw [integerOf, Letter.map_standIn_char, number]

theorem integer_text (n : Numeral) (point : n.fraction = []) (power : n.power = none) :
    integer (.ofChars n.text) =
      .ok (if n.negative then -(Json.decimal n.whole : Int) else Json.decimal n.whole) := by
  have magnitude : n.magnitudeText = n.whole := by
    simp [Numeral.magnitudeText, Numeral.fractionText, Numeral.powerText, point, power]
  have whole := integerOf_whole n (n.short point power)
  unfold integer
  rw [withoutUnderscores_text, signAndBody_text, magnitude]
  dsimp only [bind, Except.bind]
  have free : (n.whole.map Letter.char).contains (.char ':') = false := by
    simpa using fun h => by cases n.isWhole.digits _ h
  rcases n.isWhole.start with zero | ⟨d, more, start, nonzero⟩
  · rw [zero]
    rfl
  · have some_ : n.whole.map Letter.char ≠ [] := by simpa using n.isWhole.ne_nil
    have other {letters : List Letter} : n.whole.map .char ≠ .char '0' :: letters := by
      rw [start]
      exact fun h => nonzero (Letter.char.inj (List.cons.inj h).1)
    split
    · exact absurd ‹_› some_
    · exact absurd ‹_› other
    · exact absurd ‹_› other
    · exact absurd ‹_› other
    · exact absurd ‹_› other
    · rw [free, if_neg Bool.false_ne_true, whole]
      rfl

theorem signed_power (p : Power) :
    Literal.signed (p.signText ++ p.digits) = (decide (p.sign = some true), p.digits) := by
  unfold Power.signText
  cases p.sign with
  | some down => cases down <;> rfl
  | none =>
    obtain ⟨d, ds, digits⟩ := List.exists_cons_of_ne_nil p.nonempty
    have digit := p.allDigits d (digits ▸ List.mem_cons_self)
    rw [digits]
    exact signed_digit digit

theorem powerText_noDigit (n : Numeral) : NoDigit n.powerText := by
  intro c hc
  rcases n.powerText_head c hc with rfl | rfl <;> rfl

theorem decimal?_magnitude (n : Numeral) :
    Literal.decimal? false n.magnitudeText =
      some (.ofDecimal false (Json.decimal (n.whole ++ n.fraction))
        (n.power.elim 0 Power.value - n.fraction.length)) := by
  have some_whole : n.whole.isEmpty = false := by simpa using n.isWhole.ne_nil
  have whole : n.magnitudeText.takeWhile Char.isDigit = n.whole :=
    Json.takeWhile_digits n.isWhole.digits n.tail_noDigit
  have behind : n.magnitudeText.dropWhile Char.isDigit = n.tail :=
    Json.dropWhile_digits n.isWhole.digits n.tail_noDigit
  have nonempty (p : Power) : p.digits.isEmpty = false := by simpa using p.nonempty
  have power (p : Power) : p.text = p.letter :: (p.signText ++ p.digits) := rfl
  unfold Literal.decimal?
  dsimp only
  rw [whole, behind, some_whole]
  unfold Numeral.tail Numeral.fractionText
  by_cases point : n.fraction = []
  · rw [if_pos point, point]
    unfold Numeral.powerText
    cases n.power with
    | none => rfl
    | some p =>
      rcases p.isLetter with h | h <;>
      · simp [power, h, signed_power, nonempty, Power.value, Json.decimal, Json.digitValue]
        exact p.allDigits
  · have digits := Json.takeWhile_digits n.allDigits (powerText_noDigit n)
    have left := Json.dropWhile_digits n.allDigits (powerText_noDigit n)
    simp only [if_neg point, List.cons_append, digits, left]
    unfold Numeral.powerText
    cases n.power with
    | none => simp [Json.decimal, Json.digitValue]
    | some p =>
      rcases p.isLetter with h | h <;>
      · simp [power, h, signed_power, nonempty, Power.value, Json.decimal, Json.digitValue]
        exact p.allDigits

theorem neg_ofDecimal (digits : Nat) (exponent : Int) :
    (Binary64.ofDecimal false digits exponent).neg = .ofDecimal true digits exponent := by
  unfold Binary64.ofDecimal
  dsimp only
  split_ifs <;> rfl

/-- In small letters a number is the same number. -/
theorem lowered_text (n : Numeral) : Text.lowered (.ofChars n.text) = .ofChars n.lowered.text := by
  have same {cs : List Char} (digits : ∀ d ∈ cs, d.isDigit) :
      cs.map (fun c => if c = 'E' then 'e' else c) = cs := by
    have small : ∀ c ∈ cs, (if c = 'E' then 'e' else c) = c := by
      intro c hc
      rw [if_neg]
      rintro rfl
      cases digits _ hc
    rw [List.map_congr_left small, List.map_id']
  have fraction : n.fractionText.map (fun c => if c = 'E' then 'e' else c) = n.fractionText := by
    unfold Numeral.fractionText
    split
    · rfl
    · rw [List.map_cons, same n.allDigits]
      rfl
  have power : n.powerText.map (fun c => if c = 'E' then 'e' else c) = n.lowered.powerText := by
    have lowered : n.lowered.power = n.power.map Power.lowered := rfl
    rw [Numeral.powerText, Numeral.powerText, lowered]
    cases n.power with
    | none => rfl
    | some p =>
      have letter : (if p.letter = 'E' then 'e' else p.letter) = 'e' := by
        rcases p.isLetter with h | h <;> rw [h] <;> rfl
      have sign : p.signText.map (fun c => if c = 'E' then 'e' else c) = p.signText := by
        unfold Power.signText
        rcases p.sign with _ | _ | _ <;> rfl
      simp only [Option.elim, Option.map, Power.text, List.map_cons, List.map_append, letter, sign,
        same p.allDigits]
      rfl
  have magnitude :
      n.magnitudeText.map (fun c => if c = 'E' then 'e' else c) = n.lowered.magnitudeText := by
    rw [Numeral.magnitudeText, List.map_append, List.map_append, same n.isWhole.digits, fraction, power]
    rfl
  have negative : n.lowered.negative = n.negative := rfl
  rw [lower_eq n.chars, Numeral.text, Numeral.text, ← magnitude, negative]
  cases n.negative <;> rfl

theorem toLower_digit {c : Char} (digit : c.isDigit) : c.toLower = c := by
  have all : digitChars.all fun c => c.toLower = c := by decide
  exact of_decide_eq_true (List.all_eq_true.mp all c (mem_digitChars digit))

/-- A number is no name of infinity, nor of what is no number. -/
theorem double?_magnitude (n : Numeral) :
    Literal.double? n.magnitudeText = Literal.decimal? false n.magnitudeText := by
  obtain ⟨d, cs, digit, text⟩ := n.exists_digit
  have other {w : String} (letters : w.toList.head?.all fun c => !digitChars.contains c) :
      String.ofList (n.magnitudeText.map Char.toLower) ≠ w := by
    rintro rfl
    rw [String.toList_ofList, text, List.map_cons, toLower_digit digit] at letters
    simp [mem_digitChars digit] at letters
  unfold Literal.double?
  rw [text, signed_digit digit, ← text]
  dsimp only
  rw [if_neg, if_neg]
  · exact other (by decide)
  · exact not_or.mpr ⟨other (by decide), other (by decide)⟩

theorem double_text (n : Numeral) :
    double (.ofChars n.text) =
      .ok (.ofDecimal n.negative (Json.decimal (n.whole ++ n.fraction))
        (n.power.elim 0 Power.value - n.fraction.length)) := by
  have parts : doubleParts (.ofChars n.text) =
      .ok (n.negative, n.lowered.magnitudeText.map .char) := by
    have body : Text.ofList (n.text.map .char) = .ofChars n.text := rfl
    rw [doubleParts, withoutUnderscores_text, body, lowered_text, Text.toList_ofChars,
      signAndBody_text]
    rfl
  have decimal : doubleOf (n.lowered.magnitudeText.map .char) =
      .ok (.ofDecimal false (Json.decimal (n.whole ++ n.fraction))
        (n.power.elim 0 Power.value - n.fraction.length)) := by
    have power : n.lowered.power.elim 0 Power.value = n.power.elim 0 Power.value := by
      have lowered : n.lowered.power = n.power.map Power.lowered := rfl
      rw [lowered]
      cases n.power <;> rfl
    rw [doubleOf, Letter.map_standIn_char, Literal.anyDouble?, trimmed_eq n.lowered.magnitude_chars,
      map_asciiDigit n.lowered.magnitude_chars, double?_magnitude, decimal?_magnitude, power]
    rfl
  obtain ⟨d, cs, digit, text⟩ := n.lowered.exists_digit
  have other {w : List Letter} (point : w.head? = some (.char '.')) :
      n.lowered.magnitudeText.map .char ≠ w := by
    rintro rfl
    rw [text] at point
    obtain rfl := Letter.char.inj (Option.some.inj point)
    cases digit
  have free : (n.lowered.magnitudeText.map Letter.char).contains (.char ':') = false := by
    simpa using fun h => absurd (n.lowered.magnitude_chars _ h) (by decide)
  unfold double
  rw [parts]
  dsimp only [bind, Except.bind]
  rw [if_neg (other (by decide)), if_neg (other (by decide)), free, if_neg Bool.false_ne_true, decimal]
  dsimp only [pure, Except.pure]
  rw [neg_ofDecimal]
  cases n.negative with
  | true => exact congrArg Except.ok (if_pos rfl)
  | false => exact congrArg Except.ok (if_neg Bool.false_ne_true)

theorem ofLook_names : Tag.ofLook "null" = .null ∧ Tag.ofLook "true" = .bool ∧ Tag.ofLook "false" = .bool ∧
    ∀ name ∈ ["NaN", "Infinity", "-Infinity"], Tag.ofLook name = .text := by
  decide +kernel

theorem truth_names : truth "true" = .ok true ∧ truth "false" = .ok false := by
  decide +kernel

theorem value_of_fraction (n : Numeral) (point : n.fraction ≠ []) :
    n.value = .float (.ofDecimal n.negative (Json.decimal (n.whole ++ n.fraction))
      (n.power.elim 0 Power.value - n.fraction.length)) := by
  unfold Numeral.value
  cases n.power with
  | none => simp [point]
  | some p => rfl

/-- A number fits the tag of its look, with its value or as a text. -/
theorem fits_number (n : Numeral) :
    scalarValue (Tag.ofLook (.ofChars n.text)) (.ofChars n.text) =
      .ok (if n.isCommon then .scalar n.value else .text (.ofChars n.text)) := by
  rw [ofLook_text]
  by_cases point : n.fraction = []
  · rw [if_pos point]
    cases power : n.power with
    | none =>
      have common : n.isCommon := by rw [Numeral.isCommon, power]; rfl
      have value : n.value = .int (if n.negative then -(Json.decimal n.whole : Int) else Json.decimal n.whole) := by
        simp [Numeral.value, power, point]
      rw [if_pos rfl, if_pos common, scalarValue, integer_text n point power, value]
      rfl
    | some p =>
      have uncommon : n.isCommon = false := by simp [Numeral.isCommon, power, point]
      rw [if_neg nofun, uncommon, if_neg Bool.false_ne_true]
      rfl
  · have some_fraction : n.fraction.isEmpty = false := by simpa using point
    have common : n.isCommon = n.power.all fun p => p.sign.isSome := by
      simp [Numeral.isCommon, some_fraction]
    rw [if_neg point, ← common]
    split
    · rw [scalarValue, double_text, value_of_fraction n point]
      rfl
    · rfl

/-- A word of JSON fits the tag of its look. -/
theorem fits_word (w : Word) :
    ∃ a, w.plain = .atom a ∧
      scalarValue (Tag.ofLook (.ofChars w.text)) (.ofChars w.text) = .ok a := by
  cases w with
  | named name v known =>
    obtain ⟨null, yes, no, other⟩ := ofLook_names
    simp only [Json.words, List.mem_cons, Prod.mk.injEq, List.not_mem_nil, or_false] at known
    simp only [Json.Word.plain, Json.Word.text, Text.ofChars_toList]
    rcases known with ⟨rfl, rfl⟩ | ⟨rfl, rfl⟩ | ⟨rfl, rfl⟩ | ⟨rfl, rfl⟩ | ⟨rfl, rfl⟩ | ⟨rfl, rfl⟩
    · exact ⟨_, rfl, by rw [null]; rfl⟩
    · exact ⟨_, rfl, by rw [yes]; exact congrArg (Except.map Atom.bool) truth_names.1⟩
    · exact ⟨_, rfl, by rw [no]; exact congrArg (Except.map Atom.bool) truth_names.2⟩
    all_goals exact ⟨_, rfl, by rw [other _ (by simp)]; rfl⟩
  | number n =>
    refine ⟨_, ?_, fits_number n⟩
    rw [Json.Word.plain, Json.Word.isCommon]
    split <;> rfl

end Yaml

end DesignTokens
