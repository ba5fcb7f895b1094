import DesignTokens.Proofs.NumberReading

/-!
# How a number is spelled

A number has a whole part, and it may have a fraction and a power of ten. It is read up to its last
character, and whatever is read as a number is spelled so.
-/

namespace DesignTokens.Json

/-- The power of ten of a number: its letter, its sign if there is one, and its digits. -/
structure Power where
  letter : Char
  sign : Option Bool
  digits : List Char
  isLetter : letter = 'e' ∨ letter = 'E'
  nonempty : digits ≠ []
  allDigits : ∀ d ∈ digits, d.isDigit

namespace Power

def signText (p : Power) : List Char := p.sign.elim [] fun negative => [if negative then '-' else '+']

def text (p : Power) : List Char := p.letter :: (p.signText ++ p.digits)

def value (p : Power) : Int :=
  if p.sign = some true then -(decimal p.digits : Int) else decimal p.digits

end Power

/-- A number; without a point it has no digits of a fraction. -/
structure Numeral where
  negative : Bool
  whole : List Char
  fraction : List Char
  power : Option Power
  isWhole : IsWhole whole
  allDigits : ∀ d ∈ fraction, d.isDigit
  short : fraction = [] → power = none → whole.length ≤ maxDigits

namespace Numeral

def fractionText (n : Numeral) : List Char := if n.fraction = [] then [] else '.' :: n.fraction

def powerText (n : Numeral) : List Char := n.power.elim [] Power.text

def magnitudeText (n : Numeral) : List Char := n.whole ++ (n.fractionText ++ n.powerText)

def text (n : Numeral) : List Char :=
  if n.negative then '-' :: n.magnitudeText else n.magnitudeText

def value (n : Numeral) : Scalar :=
  let digits := decimal (n.whole ++ n.fraction)
  match n.power with
  | some p => .float (.ofDecimal n.negative digits (p.value - n.fraction.length))
  | none =>
    if n.fraction = [] then .int (if n.negative then -(digits : Int) else digits)
    else .float (.ofDecimal n.negative digits (-(n.fraction.length : Int)))

end Numeral

/-- The characters of numbers are few, so what holds of each of them can be decided. -/
def digitChars : List Char := ['0', '1', '2', '3', '4', '5', '6', '7', '8', '9']

def powerChars : List Char := ['e', 'E', '+', '-'] ++ digitChars

def numberChars : List Char := '.' :: powerChars

theorem mem_digitChars {c : Char} (digit : c.isDigit) : c ∈ digitChars := by
  have bounds := Char.isDigit_iff_toNat.mp digit
  have zero : '0'.toNat = 48 := rfl
  have nine : '9'.toNat = 57 := rfl
  have same : c = Char.ofNat c.toNat := (Char.ofNat_toNat c).symm
  obtain ⟨k, hk, code⟩ : ∃ k < 10, c.toNat = 48 + k := ⟨c.toNat - 48, by omega, by omega⟩
  have all : ∀ k < 10, Char.ofNat (48 + k) ∈ digitChars := by decide
  rw [same, code]
  exact all k hk

theorem mem_powerChars {c : Char} (digit : c.isDigit) : c ∈ powerChars :=
  List.mem_append_right _ (mem_digitChars digit)

theorem mem_numberChars {c : Char} (digit : c.isDigit) : c ∈ numberChars :=
  List.mem_cons_of_mem _ (mem_powerChars digit)

theorem Power.chars (p : Power) : ∀ c ∈ p.text, c ∈ powerChars := by
  intro c hc
  rcases List.mem_cons.mp hc with rfl | hc
  · rcases p.isLetter with h | h <;> rw [h] <;> decide
  · rcases List.mem_append.mp hc with hc | hc
    · unfold Power.signText at hc
      cases hs : p.sign with
      | none =>
        rw [hs] at hc
        cases hc
      | some down =>
        rw [hs] at hc
        cases down <;> (rw [List.mem_singleton.mp hc]; decide)
    · exact mem_powerChars (p.allDigits c hc)

theorem Numeral.magnitude_chars (n : Numeral) : ∀ c ∈ n.magnitudeText, c ∈ numberChars := by
  intro c hc
  rcases List.mem_append.mp hc with hc | hc
  · exact mem_numberChars (n.isWhole.digits c hc)
  · rcases List.mem_append.mp hc with hc | hc
    · unfold Numeral.fractionText at hc
      split at hc
      · cases hc
      · rcases List.mem_cons.mp hc with rfl | hc
        · decide
        · exact mem_numberChars (n.allDigits c hc)
    · unfold Numeral.powerText at hc
      cases hp : n.power with
      | none =>
        rw [hp] at hc
        cases hc
      | some p =>
        rw [hp] at hc
        exact List.mem_cons_of_mem _ (p.chars c hc)

theorem Numeral.chars (n : Numeral) : ∀ c ∈ n.text, c ∈ numberChars := by
  unfold Numeral.text
  split
  · exact List.forall_mem_cons.mpr ⟨by decide, n.magnitude_chars⟩
  · exact n.magnitude_chars

/-- The same power with a small letter. -/
def Power.lowered (p : Power) : Power := ⟨'e', p.sign, p.digits, Or.inl rfl, p.nonempty, p.allDigits⟩

namespace Numeral

/-- What stands behind the whole part. -/
def tail (n : Numeral) : List Char := n.fractionText ++ n.powerText

theorem powerText_head (n : Numeral) : ∀ c ∈ n.powerText.head?, c = 'e' ∨ c = 'E' := by
  unfold powerText
  cases n.power with
  | none => nofun
  | some p =>
    intro c hc
    cases hc
    exact p.isLetter

theorem tail_head (n : Numeral) : ∀ c ∈ n.tail.head?, c = '.' ∨ c = 'e' ∨ c = 'E' := by
  unfold tail fractionText
  split
  · exact fun c hc => Or.inr (n.powerText_head c hc)
  · intro c hc
    cases hc
    exact Or.inl rfl

theorem tail_noDigit (n : Numeral) : NoDigit n.tail := by
  intro c hc
  rcases n.tail_head c hc with rfl | rfl | rfl <;> rfl

theorem tail_eq_nil (n : Numeral) : n.tail = [] ↔ n.fraction = [] ∧ n.power = none := by
  unfold tail fractionText powerText
  cases n.power <;> split <;> simp_all [Power.text]

theorem text_ne_nil (n : Numeral) : n.text ≠ [] := by
  unfold text magnitudeText
  split
  · nofun
  · exact List.append_ne_nil_of_left_ne_nil n.isWhole.ne_nil _

/-- Without its sign a number starts with a digit. -/
theorem exists_digit (n : Numeral) : ∃ d cs, d.isDigit ∧ n.magnitudeText = d :: cs := by
  obtain ⟨d, ds, whole⟩ := List.exists_cons_of_ne_nil n.isWhole.ne_nil
  refine ⟨d, ds ++ n.tail, n.isWhole.digits d (whole ▸ List.mem_cons_self), ?_⟩
  rw [magnitudeText, whole]
  rfl

theorem chars_ne (n : Numeral) {c : Char} (other : c ∉ numberChars) : c ∉ n.text :=
  fun h => other (n.chars c h)

/-- The same number with a small letter in front of its power. -/
def lowered (n : Numeral) : Numeral where
  negative := n.negative
  whole := n.whole
  fraction := n.fraction
  power := n.power.map Power.lowered
  isWhole := n.isWhole
  allDigits := n.allDigits
  short f p := n.short f (Option.map_eq_none_iff.mp p)

end Numeral

/-- No character of a number comes first. -/
def Apart (rest : List Char) : Prop := ∀ c ∈ rest.head?, c ∉ numberChars

theorem Apart.noDigit {rest : List Char} (apart : Apart rest) : NoDigit rest := by
  intro c hc
  exact Bool.eq_false_iff.mpr fun digit => apart c hc (mem_numberChars digit)

theorem exponent_power (p : Power) {rest : List Char} (ends : NoDigit rest) :
    exponent (p.text ++ rest) = some (p.value, rest) := by
  have taken := takeWhile_digits p.allDigits ends
  have left := dropWhile_digits p.allDigits ends
  have nonempty : p.digits.isEmpty = false := by simpa using p.nonempty
  have text : p.text ++ rest = p.letter :: (p.signText ++ (p.digits ++ rest)) := by simp [Power.text]
  rw [text, Power.signText, Power.value]
  cases p.sign with
  | some down =>
    unfold exponent
    dsimp only
    rw [if_pos p.isLetter]
    cases down <;> simp [taken, left, nonempty]
  | none =>
    obtain ⟨d, ds, digits⟩ := List.exists_cons_of_ne_nil p.nonempty
    have digit := p.allDigits d (digits ▸ List.mem_cons_self)
    have other (c : Char) (hc : c.isDigit = false) (cs : List Char) (same : p.digits ++ rest = c :: cs) :
        False := by
      rw [digits] at same
      exact digit_ne digit hc (List.cons.inj same).1
    rw [Option.elim, List.nil_append, exponent, if_pos p.isLetter]
    · simp [taken, left, nonempty]
    · exact other '-' rfl
    · exact other '+' rfl

/-- A number is read up to its last digit. -/
theorem unsignedNumber_numeral (n : Numeral) (shown : List Char) {rest : List Char} (apart : Apart rest) :
    unsignedNumber n.negative shown (n.magnitudeText ++ rest) = .ok (n.value, rest) := by
  have text : n.magnitudeText ++ rest = n.whole ++ (n.fractionText ++ (n.powerText ++ rest)) := by
    simp [Numeral.magnitudeText]
  have letter : ∀ c ∈ (n.powerText ++ rest).head?, c.isDigit = false ∧ c ≠ '.' := by
    intro c hc
    cases h : n.powerText with
    | nil =>
      rw [h, List.nil_append] at hc
      exact ⟨apart.noDigit c hc, fun point => apart c hc (by rw [point]; exact List.mem_cons_self)⟩
    | cons e more =>
      rw [h] at hc
      rcases n.powerText_head c (by rw [h]; exact hc) with rfl | rfl <;> decide
  have ends : NoDigit (n.fractionText ++ (n.powerText ++ rest)) := by
    unfold Numeral.fractionText
    split
    · exact fun c hc => (letter c hc).1
    · rintro c ⟨⟩
      rfl
  have parts : fraction (n.fractionText ++ (n.powerText ++ rest)) = (n.fraction, n.powerText ++ rest) := by
    unfold Numeral.fractionText
    split
    · rename_i point
      rw [point]
      exact fraction_none fun h => (letter '.' h).2 rfl
    · rename_i point
      exact fraction_point n.allDigits point fun c hc => (letter c hc).1
  have nonempty : n.whole.isEmpty = false := by simpa using n.isWhole.ne_nil
  rw [text, unsignedNumber_eq, n.isWhole.wholePart ends, List.drop_left, parts, nonempty]
  unfold Numeral.value Numeral.powerText
  cases power : n.power with
  | some p => simp [exponent_power p apart.noDigit]
  | none =>
    have none : exponent rest = none := exponent_none fun c hc => by
      constructor <;>
      · rintro rfl
        exact apart _ hc (by decide)
    by_cases point : n.fraction = []
    · simp [none, point, n.short point power]
    · simp [none, point]

theorem exists_fraction (cs : List Char) :
    ∃ frac rest, fraction cs = (frac, rest) ∧ (∀ d ∈ frac, d.isDigit) ∧
      cs = (if frac = [] then [] else '.' :: frac) ++ rest := by
  unfold fraction
  split
  · rename_i d rest
    split
    · rename_i digit
      refine ⟨_, _, rfl, fun c => List.mem_takeWhile_imp, ?_⟩
      have nonempty : (d :: rest).takeWhile Char.isDigit ≠ [] := by simp [digit]
      rw [if_neg nonempty, List.cons_append, List.takeWhile_append_dropWhile]
    · exact ⟨[], _, rfl, by simp, rfl⟩
  · exact ⟨[], cs, rfl, by simp, rfl⟩

theorem exists_power {cs rest : List Char} {e : Int} (read : exponent cs = some (e, rest)) :
    ∃ p : Power, cs = p.text ++ rest ∧ p.value = e := by
  have step {letter : Char} {ds : List Char} (sign : Option Bool)
      (isLetter : letter = 'e' ∨ letter = 'E')
      (read : (if (ds.takeWhile Char.isDigit).isEmpty then none
        else some (if sign = some true then -(decimal (ds.takeWhile Char.isDigit) : Int)
          else decimal (ds.takeWhile Char.isDigit), ds.dropWhile Char.isDigit)) = some (e, rest)) :
      ∃ p : Power, p.letter = letter ∧ p.sign = sign ∧ ds = p.digits ++ rest ∧ p.value = e := by
    split at read
    · cases read
    · rename_i nonempty
      obtain ⟨rfl, rfl⟩ := Prod.mk.inj (Option.some.inj read)
      exact ⟨⟨letter, sign, _, isLetter, by simpa using nonempty, fun d => List.mem_takeWhile_imp⟩,
        rfl, rfl, List.takeWhile_append_dropWhile.symm, rfl⟩
  unfold exponent at read
  split at read
  · rename_i letter tail
    split at read
    · rename_i isLetter
      dsimp only at read
      split at read
      · obtain ⟨p, rfl, sign, rfl, value⟩ := step (some true) isLetter (by simpa using read)
        exact ⟨p, by simp [Power.text, Power.signText, sign], value⟩
      · obtain ⟨p, rfl, sign, rfl, value⟩ := step (some false) isLetter (by simpa using read)
        exact ⟨p, by simp [Power.text, Power.signText, sign], value⟩
      · obtain ⟨p, rfl, sign, rfl, value⟩ := step none isLetter (by simpa using read)
        exact ⟨p, by simp [Power.text, Power.signText, sign], value⟩
    · cases read
  · cases read

theorem isWhole_wholePart {cs : List Char} (nonempty : wholePart cs ≠ []) : IsWhole (wholePart cs) where
  digits _ := isDigit_of_mem_wholePart
  start := by
    unfold wholePart at nonempty ⊢
    split
    · exact Or.inl rfl
    · rename_i other
      cases cs with
      | nil => exact absurd rfl nonempty
      | cons d more =>
        refine Or.inr ⟨d, more.takeWhile Char.isDigit, ?_, ?_⟩
        · have digit : d.isDigit := by
            by_contra h
            simp [h] at nonempty
          simp [digit]
        · rintro rfl
          exact other more rfl

theorem exists_numeral {negative : Bool} {shown cs rest : List Char} {s : Scalar}
    (read : unsignedNumber negative shown cs = .ok (s, rest)) :
    ∃ n : Numeral, n.negative = negative ∧ cs = n.magnitudeText ++ rest ∧ n.value = s := by
  have start : wholePart cs ++ cs.drop (wholePart cs).length = cs :=
    List.prefix_iff_eq_append.mp (wholePart_starts cs)
  obtain ⟨frac, behind, hfrac, digits, split⟩ := exists_fraction (cs.drop (wholePart cs).length)
  have spelled (power : Option Power)
      (short : frac = [] → power = none → (wholePart cs).length ≤ maxDigits)
      (nonempty : wholePart cs ≠ []) (hpower : behind = power.elim [] Power.text ++ rest) :
      cs = (Numeral.mk negative (wholePart cs) frac power (isWhole_wholePart nonempty) digits
        short).magnitudeText ++ rest := by
    simp only [Numeral.magnitudeText, Numeral.fractionText, Numeral.powerText, List.append_assoc]
    rw [← hpower, ← split, start]
  rw [unsignedNumber_eq] at read
  split at read
  · cases read
  · rename_i nonempty
    rw [List.isEmpty_iff] at nonempty
    simp only [hfrac] at read
    split at read
    · rename_i e after hexp
      obtain ⟨p, hp, rfl⟩ := exists_power hexp
      cases read
      exact ⟨_, rfl, spelled (some p) (by simp) nonempty hp, rfl⟩
    · simp only [List.isEmpty_iff] at read
      split at read
      · rename_i whole
        split at read
        · cases read
        · rename_i short
          cases read
          exact ⟨_, rfl, spelled none (fun _ _ => Nat.not_lt.mp short) nonempty rfl,
            if_pos whole⟩
      · rename_i point
        cases read
        exact ⟨_, rfl, spelled none (fun h => absurd h point) nonempty rfl,
          if_neg point⟩

end DesignTokens.Json
