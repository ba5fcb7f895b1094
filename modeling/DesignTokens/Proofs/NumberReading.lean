import DesignTokens.Proofs.JsonReading
import DesignTokens.Proofs.NumberText
import DesignTokens.Proofs.Shortest

/-!
# Reading written numbers

The reader takes a number text apart into its whole part, its fraction and its exponent. What it finds
in the text of a whole number is that number, and in the text of a double a decimal with the value of
the shortest one, which is read as the double.
-/

namespace DesignTokens.Json

theorem decimal_eq (ds : List Char) : decimal ds = Nat.ofDigitChars 10 ds 0 := by
  unfold decimal Nat.ofDigitChars
  congr
  funext n d
  rw [mul_comm]
  rfl

theorem decimal_natText (n : Nat) : decimal (natText n) = n := by
  rw [decimal_eq]
  exact Nat.ofDigitChars_toDigits (by decide) (by decide)

theorem decimal_zeros_append (count : Nat) (ds : List Char) :
    decimal (List.replicate count '0' ++ ds) = decimal ds := by
  rw [decimal_eq, decimal_eq, Nat.ofDigitChars_append, Nat.ofDigitChars_replicate_zero]
  simp

theorem decimal_append_zeros (count : Nat) (ds : List Char) :
    decimal (ds ++ List.replicate count '0') = decimal ds * 10 ^ count := by
  rw [decimal_eq, decimal_eq, Nat.ofDigitChars_append, Nat.ofDigitChars_replicate_zero, mul_comm]

/-- The digits of a positive number do not start with a zero. -/
theorem natText_start {n : Nat} (pos : 0 < n) : ∃ d ds, natText n = d :: ds ∧ d ≠ '0' := by
  have digitChar_ne : ∀ m < 10, 0 < m → m.digitChar ≠ '0' := by decide
  induction n using Nat.strong_induction_on with
  | _ n ih =>
    have step : natText n =
        if n < 10 then [n.digitChar] else natText (n / 10) ++ [(n % 10).digitChar] :=
      Nat.toDigits_eq_if (by decide)
    rw [step]
    split
    · rename_i small
      exact ⟨n.digitChar, [], rfl, digitChar_ne n small pos⟩
    · rename_i large
      obtain ⟨d, ds, text, nonzero⟩ := ih (n / 10) (by omega) (by omega)
      exact ⟨d, ds ++ [(n % 10).digitChar], by rw [text]; rfl, nonzero⟩

theorem digit_ne {d c : Char} (digit : d.isDigit) (other : c.isDigit = false) : d ≠ c := by
  rintro rfl
  rw [other] at digit
  cases digit

/-- No digit comes first. -/
def NoDigit (cs : List Char) : Prop := ∀ c ∈ cs.head?, c.isDigit = false

theorem takeWhile_digits {ds tail : List Char} (digits : ∀ d ∈ ds, d.isDigit) (ends : NoDigit tail) :
    (ds ++ tail).takeWhile Char.isDigit = ds := by
  rw [List.takeWhile_append_of_pos digits]
  cases tail with
  | nil => simp
  | cons c rest => simp [ends c rfl]

theorem dropWhile_digits {ds tail : List Char} (digits : ∀ d ∈ ds, d.isDigit) (ends : NoDigit tail) :
    (ds ++ tail).dropWhile Char.isDigit = tail := by
  rw [List.dropWhile_append_of_pos digits]
  cases tail with
  | nil => simp
  | cons c rest => simp [ends c rfl]

/-- Digits that are a whole part: all that there are, and a zero in front only alone. -/
structure IsWhole (ds : List Char) : Prop where
  digits : ∀ d ∈ ds, d.isDigit
  start : ds = ['0'] ∨ ∃ d more, ds = d :: more ∧ d ≠ '0'

theorem isWhole_natText (n : Nat) : IsWhole (natText n) where
  digits d hd := isDigit_of_mem_natText hd
  start := by
    rcases Nat.eq_zero_or_pos n with rfl | pos
    · exact Or.inl rfl
    · exact Or.inr (natText_start pos)

theorem IsWhole.wholePart {ds tail : List Char} (whole : IsWhole ds) (ends : NoDigit tail) :
    wholePart (ds ++ tail) = ds := by
  rcases whole.start with rfl | ⟨d, more, rfl, nonzero⟩
  · rfl
  · unfold Json.wholePart
    split
    · rename_i same
      rw [List.cons_append, List.cons.injEq] at same
      exact absurd same.1 nonzero
    · exact takeWhile_digits whole.digits ends

theorem IsWhole.ne_nil {ds : List Char} (whole : IsWhole ds) : ds ≠ [] := by
  rcases whole.start with rfl | ⟨d, more, rfl, -⟩ <;> simp

theorem fraction_point {frac tail : List Char} (digits : ∀ d ∈ frac, d.isDigit) (nonempty : frac ≠ [])
    (ends : NoDigit tail) : fraction ('.' :: (frac ++ tail)) = (frac, tail) := by
  obtain ⟨d, more, rfl⟩ := List.exists_cons_of_ne_nil nonempty
  have first : d.isDigit := digits d List.mem_cons_self
  have taken := takeWhile_digits digits ends
  have left := dropWhile_digits digits ends
  rw [List.cons_append] at taken left ⊢
  simp only [fraction, first, if_true, taken, left]

theorem fraction_none {tail : List Char} (ends : '.' ∉ tail.head?) : fraction tail = ([], tail) := by
  unfold fraction
  split
  · simp at ends
  · rfl

/-- An exponent with its sign. -/
def exponentText (negative : Bool) (power : List Char) : List Char :=
  'e' :: (if negative then '-' else '+') :: power

theorem exponent_text {negative : Bool} {power rest : List Char} (digits : ∀ d ∈ power, d.isDigit)
    (nonempty : power ≠ []) (ends : NoDigit rest) :
    exponent (exponentText negative power ++ rest) =
      some ((if negative then -(decimal power : Int) else decimal power), rest) := by
  have taken := takeWhile_digits digits ends
  have left := dropWhile_digits digits ends
  have some_digit : power.isEmpty = false := by simpa using nonempty
  cases negative <;> simp [exponentText, exponent, taken, left, some_digit]

theorem exponent_none {tail : List Char} (ends : ∀ c ∈ tail.head?, c ≠ 'e' ∧ c ≠ 'E') :
    exponent tail = none := by
  cases tail with
  | nil => rfl
  | cons c rest => simp [exponent, ends c rfl]

/-- A text that may follow a value: nothing, a separator, or the line of a closing bracket. -/
def Follows (rest : List Char) : Prop := ∀ c ∈ rest.head?, c = ',' ∨ c = '\n'

theorem Follows.noDigit {rest : List Char} (follows : Follows rest) : NoDigit rest := by
  intro c hc
  rcases follows c hc with rfl | rfl <;> decide

theorem Follows.fraction {rest : List Char} (follows : Follows rest) :
    fraction rest = ([], rest) := by
  refine fraction_none fun point => ?_
  rcases follows '.' point with h | h <;> cases h

theorem Follows.exponent {rest : List Char} (follows : Follows rest) : exponent rest = none := by
  refine exponent_none fun c hc => ?_
  rcases follows c hc with rfl | rfl <;> decide

theorem unsignedNumber_int {negative : Bool} {shown whole rest : List Char} (hwhole : IsWhole whole)
    (short : whole.length ≤ maxDigits) (follows : Follows rest) :
    unsignedNumber negative shown (whole ++ rest) =
      .ok (.int (if negative then -(decimal whole : Int) else decimal whole), rest) := by
  have nonempty : whole.isEmpty = false := by simpa using hwhole.ne_nil
  rw [unsignedNumber_eq, hwhole.wholePart follows.noDigit, List.drop_left, follows.fraction]
  simp [nonempty, follows.exponent, Nat.not_lt.mpr short]

theorem unsignedNumber_fraction {negative : Bool} {shown whole frac rest : List Char}
    (hwhole : IsWhole whole) (digits : ∀ d ∈ frac, d.isDigit) (nonempty : frac ≠ [])
    (follows : Follows rest) :
    unsignedNumber negative shown (whole ++ '.' :: (frac ++ rest)) =
      .ok (.float (.ofDecimal negative (decimal (whole ++ frac)) (-(frac.length : Int))), rest) := by
  have point : NoDigit ('.' :: (frac ++ rest)) := by simp [NoDigit]
  have some_whole : whole.isEmpty = false := by simpa using hwhole.ne_nil
  have some_frac : frac.isEmpty = false := by simpa using nonempty
  rw [unsignedNumber_eq, hwhole.wholePart point, List.drop_left,
    fraction_point digits nonempty follows.noDigit]
  simp [some_whole, some_frac, follows.exponent]

theorem unsignedNumber_exponent {negative down : Bool} {shown whole power rest : List Char}
    (hwhole : IsWhole whole) (digits : ∀ d ∈ power, d.isDigit) (nonempty : power ≠ [])
    (follows : Follows rest) :
    unsignedNumber negative shown (whole ++ (exponentText down power ++ rest)) =
      .ok (.float (.ofDecimal negative (decimal whole)
        (if down then -(decimal power : Int) else decimal power)), rest) := by
  have mark : NoDigit (exponentText down power ++ rest) := by simp [NoDigit, exponentText]
  have some_whole : whole.isEmpty = false := by simpa using hwhole.ne_nil
  rw [unsignedNumber_eq, hwhole.wholePart mark, List.drop_left,
    fraction_none (by simp [exponentText])]
  simp [some_whole, exponent_text digits nonempty follows.noDigit]

theorem unsignedNumber_fraction_exponent {negative down : Bool}
    {shown whole frac power rest : List Char} (hwhole : IsWhole whole)
    (frac_digits : ∀ d ∈ frac, d.isDigit) (frac_nonempty : frac ≠ [])
    (digits : ∀ d ∈ power, d.isDigit) (nonempty : power ≠ []) (follows : Follows rest) :
    unsignedNumber negative shown (whole ++ '.' :: (frac ++ (exponentText down power ++ rest))) =
      .ok (.float (.ofDecimal negative (decimal (whole ++ frac))
        ((if down then -(decimal power : Int) else decimal power) - frac.length)), rest) := by
  have point : NoDigit ('.' :: (frac ++ (exponentText down power ++ rest))) := by simp [NoDigit]
  have mark : NoDigit (exponentText down power ++ rest) := by simp [NoDigit, exponentText]
  have some_whole : whole.isEmpty = false := by simpa using hwhole.ne_nil
  rw [unsignedNumber_eq, hwhole.wholePart point, List.drop_left,
    fraction_point frac_digits frac_nonempty mark]
  simp [some_whole, exponent_text digits nonempty follows.noDigit]

section

variable {negative : Bool} {shown rest : List Char}

theorem natText_digits {n : Nat} : ∀ c ∈ natText n, c.isDigit :=
  fun _ hc => isDigit_of_mem_natText hc

theorem zeros_digits {count : Nat} : ∀ c ∈ List.replicate count '0', c.isDigit := by
  intro c hc
  rw [List.eq_of_mem_replicate hc]
  decide

theorem append_digits {ds ds' : List Char} (digits : ∀ c ∈ ds, c.isDigit)
    (digits' : ∀ c ∈ ds', c.isDigit) : ∀ c ∈ ds ++ ds', c.isDigit := by
  intro c hc
  rcases List.mem_append.mp hc with h | h
  · exact digits c h
  · exact digits' c h

theorem natText_ne_nil (n : Nat) : natText n ≠ [] := Nat.toDigits_ne_nil

/-- A number below one is read with the exponent it is written with. -/
theorem unsignedNumber_below_one {digits : Nat} {n : ℤ} (small : n ≤ 0) (follows : Follows rest) :
    unsignedNumber negative shown (Notation.positional (natText digits) n ++ rest) =
      .ok (.float (.ofDecimal negative digits (n - (natText digits).length)), rest) := by
  have zero : IsWhole ['0'] := isWhole_natText 0
  have text : Notation.positional (natText digits) n ++ rest =
      ['0'] ++ '.' :: ((List.replicate (-n).toNat '0' ++ natText digits) ++ rest) := by
    rw [Notation.positional, if_pos small]
    rfl
  have value : decimal (['0'] ++ (List.replicate (-n).toNat '0' ++ natText digits)) = digits :=
    (decimal_zeros_append ((-n).toNat + 1) _).trans (decimal_natText digits)
  have places : -((List.replicate (-n).toNat '0' ++ natText digits).length : ℤ) =
      n - (natText digits).length := by
    rw [List.length_append, List.length_replicate]
    omega
  rw [text, unsignedNumber_fraction zero (append_digits zeros_digits natText_digits)
    (by simp [natText_ne_nil]) follows, value, places]

/-- A whole number with a zero behind the point is read as it stands there. -/
theorem unsignedNumber_whole {digits : Nat} {n : ℤ} (pos : 0 < digits)
    (large : ((natText digits).length : ℤ) ≤ n) (follows : Follows rest) :
    unsignedNumber negative shown (Notation.positional (natText digits) n ++ rest) =
      .ok (.float (.ofDecimal negative
        (digits * 10 ^ ((n - (natText digits).length).toNat + 1)) (-1)), rest) := by
  obtain ⟨d, more, start, nonzero⟩ := natText_start pos
  have length_pos := List.length_pos_iff.mpr (natText_ne_nil digits)
  have whole : IsWhole (natText digits ++ List.replicate (n.toNat - (natText digits).length) '0') :=
    ⟨append_digits natText_digits zeros_digits, Or.inr ⟨d, _, by rw [start]; rfl, nonzero⟩⟩
  have text : Notation.positional (natText digits) n ++ rest =
      (natText digits ++ List.replicate (n.toNat - (natText digits).length) '0') ++
        '.' :: (['0'] ++ rest) := by
    rw [Notation.positional, if_neg (by omega), if_pos (by omega)]
    simp
  have value : decimal ((natText digits ++ List.replicate (n.toNat - (natText digits).length) '0') ++
      ['0']) = digits * 10 ^ ((n - (natText digits).length).toNat + 1) := by
    rw [List.append_assoc, ← List.replicate_succ', decimal_append_zeros, decimal_natText]
    congr 2
    omega
  have zero : IsWhole ['0'] := isWhole_natText 0
  rw [text, unsignedNumber_fraction whole zero.digits zero.ne_nil follows, value]
  rfl

/-- A number with digits on both sides of the point is read with the exponent it is written with. -/
theorem unsignedNumber_mixed {digits : Nat} {n : ℤ} (pos : 0 < digits) (some : 0 < n)
    (few : n < (natText digits).length) (follows : Follows rest) :
    unsignedNumber negative shown (Notation.positional (natText digits) n ++ rest) =
      .ok (.float (.ofDecimal negative digits (n - (natText digits).length)), rest) := by
  obtain ⟨d, more, start, nonzero⟩ := natText_start pos
  have whole : IsWhole ((natText digits).take n.toNat) := by
    obtain ⟨k, hk⟩ : ∃ k, n.toNat = k + 1 := ⟨n.toNat - 1, by omega⟩
    refine ⟨fun c hc => natText_digits c (List.mem_of_mem_take hc),
      Or.inr ⟨d, more.take k, ?_, nonzero⟩⟩
    rw [start, hk]
    rfl
  have text : Notation.positional (natText digits) n ++ rest =
      (natText digits).take n.toNat ++ '.' :: ((natText digits).drop n.toNat ++ rest) := by
    rw [Notation.positional, if_neg (by omega), if_neg (by omega)]
    simp
  have behind : (natText digits).drop n.toNat ≠ [] := by
    rw [ne_eq, List.drop_eq_nil_iff]
    omega
  have places : -(((natText digits).drop n.toNat).length : ℤ) = n - (natText digits).length := by
    rw [List.length_drop]
    omega
  rw [text, unsignedNumber_fraction whole (fun c hc => natText_digits c (List.mem_of_mem_drop hc))
    behind follows, List.take_append_drop, decimal_natText, places]

/-- A number in exponential notation is read with the exponent it is written with. -/
theorem unsignedNumber_exponential {digits : Nat} {e : ℤ} (pos : 0 < digits)
    (follows : Follows rest) :
    unsignedNumber negative shown (script.exponential (natText digits) e ++ rest) =
      .ok (.float (.ofDecimal negative digits (e + 1 - (natText digits).length)), rest) := by
  obtain ⟨d, more, start, nonzero⟩ := natText_start pos
  let power := List.replicate (2 - (natText e.natAbs).length) '0' ++ natText e.natAbs
  have power_digits : ∀ c ∈ power, c.isDigit := append_digits zeros_digits natText_digits
  have power_ne_nil : power ≠ [] := by simp [power, natText_ne_nil]
  have exponent : (if decide (e < 0) = true then -(decimal power : ℤ) else decimal power) = e := by
    rw [decimal_zeros_append, decimal_natText]
    simp only [decide_eq_true_eq]
    split <;> omega
  have value := decimal_natText digits
  have all := natText_digits (n := digits)
  rw [start] at value all ⊢
  have whole : IsWhole [d] :=
    ⟨fun c hc => all c (by simp_all), Or.inr ⟨d, [], rfl, nonzero⟩⟩
  cases more with
  | nil =>
    have text : script.exponential [d] e ++ rest =
        [d] ++ (exponentText (decide (e < 0)) power ++ rest) := by
      simp [Notation.exponential, exponentText, script, power]
    rw [text, unsignedNumber_exponent whole power_digits power_ne_nil follows, value, exponent]
    simp
  | cons d' more =>
    have text : script.exponential (d :: d' :: more) e ++ rest =
        [d] ++ '.' :: ((d' :: more) ++ (exponentText (decide (e < 0)) power ++ rest)) := by
      simp [Notation.exponential, exponentText, script, power]
    rw [text, unsignedNumber_fraction_exponent whole
      (fun c hc => all c (List.mem_cons_of_mem d hc)) (by simp) power_digits power_ne_nil follows,
      List.singleton_append, value, exponent]
    congr 4
    simp

/-- A number in positional notation is read as its digits and its exponent, or as another decimal of
the same value if zeros were added to the digits. -/
theorem unsignedNumber_positional {digits : Nat} {exponent : ℤ} {x : Binary64} (pos : 0 < digits)
    (few : digits ≤ 10 ^ 17) (least : -400 ≤ exponent)
    (below : exponent + (natText digits).length - 1 < 16)
    (read : ∀ (digits' : Nat) (exponent' : ℤ), digits' < 2 ^ 130 → -400 ≤ exponent' →
      exponent' ≤ 360 → (digits' * 10 ^ exponent' : ℚ) = digits * 10 ^ exponent →
      Binary64.ofDecimal negative digits' exponent' = x)
    (follows : Follows rest) :
    unsignedNumber negative shown
        (Notation.positional (natText digits) (exponent + (natText digits).length - 1 + 1) ++ rest) =
      .ok (.float x, rest) := by
  have length_pos := List.length_pos_iff.mpr (natText_ne_nil digits)
  have places : exponent + (natText digits).length - 1 + 1 - (natText digits).length = exponent := by
    omega
  have as_written := read digits exponent (by omega) least (by omega) rfl
  by_cases small : exponent + (natText digits).length - 1 + 1 ≤ 0
  · rw [unsignedNumber_below_one small follows, places, as_written]
  by_cases large : ((natText digits).length : ℤ) ≤ exponent + (natText digits).length - 1 + 1
  · rw [unsignedNumber_whole pos large follows, places]
    obtain ⟨k, rfl⟩ := Int.eq_ofNat_of_zero_le (by omega : 0 ≤ exponent)
    rw [read _ _ ?_ (by decide) (by decide) ?_]
    · have bound : 10 ^ ((k : ℤ).toNat + 1) ≤ 10 ^ 16 := Nat.pow_le_pow_right (by decide) (by omega)
      calc digits * 10 ^ ((k : ℤ).toNat + 1) ≤ 10 ^ 17 * 10 ^ 16 := Nat.mul_le_mul few bound
        _ < 2 ^ 130 := by norm_num
    · push_cast
      rw [pow_succ]
      norm_num
      ring
  · rw [unsignedNumber_mixed pos (by omega) (by omega) follows, places, as_written]

/-- The text of a finite double without its sign is read as the double. -/
theorem unsignedNumber_magnitude {rank : Nat} (finite : rank < Binary64.top)
    (follows : Follows rest) :
    unsignedNumber negative shown (script.magnitude rank ++ rest) =
      .ok (.float (.signed negative ⟨rank, Nat.lt_succ_of_lt finite⟩), rest) := by
  rcases Nat.eq_zero_or_pos rank with rfl | pos
  · have zero : IsWhole ['0'] := isWhole_natText 0
    exact unsignedNumber_fraction zero zero.digits zero.ne_nil follows
  obtain ⟨near, few, least, most⟩ := Shortest.shortest_spec pos finite
  have digits_pos : 0 < (Shortest.shortest rank).digits := by
    rw [Nat.pos_iff_ne_zero]
    intro none
    have := near.pos pos
    simp [Shortest.Decimal.toRat, none] at this
  have read (digits : Nat) (exponent : ℤ) (few : digits < 2 ^ 130) (least : -400 ≤ exponent)
      (most : exponent ≤ 360)
      (value : (digits * 10 ^ exponent : ℚ) = (Shortest.shortest rank).toRat) :
      Binary64.ofDecimal negative digits exponent =
        .signed negative ⟨rank, Nat.lt_succ_of_lt finite⟩ :=
    Shortest.ofDecimal_of_near pos finite (value ▸ near) few least most
  rw [Notation.magnitude, if_neg pos.ne']
  generalize Shortest.shortest rank = d at *
  obtain ⟨digits, exponent⟩ := d
  dsimp only [Shortest.Decimal.toRat] at *
  split
  · rename_i range
    exact unsignedNumber_positional digits_pos few (by omega) range.2 read follows
  · have places : exponent + (natText digits).length - 1 + 1 - (natText digits).length =
        exponent := by omega
    rw [unsignedNumber_exponential digits_pos follows, places,
      read digits exponent (by omega) (by omega) most rfl]

end

end DesignTokens.Json
