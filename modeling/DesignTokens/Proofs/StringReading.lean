import DesignTokens.Json.Reader
import DesignTokens.Json.Writer

/-!
# Reading written strings

Every character of a written string stands there as itself or as an escape, and the reader takes one
character from it and goes on behind it.
-/

namespace DesignTokens.Json

theorem hexNumber?_hexPadded : ∀ n < 0x20, hexNumber? (Text.hexPadded 4 n) = some n := by
  decide

/-- A control character is written with the four digits of its code. -/
theorem escapedCodePoint_control {c : Char} (control : c.toNat < 0x20) {rest : List Char}
    (more : rest ≠ []) :
    escapedCodePoint ('u' :: (Text.hexPadded 4 c.toNat ++ rest)) = .ok (.char c, rest) := by
  obtain ⟨next, behind, rfl⟩ := List.exists_cons_of_ne_nil more
  have number := hexNumber?_hexPadded c.toNat control
  have digits : Text.hexPadded 4 c.toNat = [Text.Utf8.hexDigit (c.toNat / Nat.pow 16 3 % 16),
      Text.Utf8.hexDigit (c.toNat / Nat.pow 16 2 % 16),
      Text.Utf8.hexDigit (c.toNat / Nat.pow 16 1 % 16),
      Text.Utf8.hexDigit (c.toNat / Nat.pow 16 0 % 16)] := rfl
  have unit : codeUnit? (Text.hexPadded 4 c.toNat ++ next :: behind) =
      some (c.toNat, next :: behind) := by
    rw [digits] at number ⊢
    simp only [List.cons_append, List.nil_append, codeUnit?, number, Option.map_some]
  have high : isHighSurrogate c.toNat = false := by
    simp [isHighSurrogate]
    omega
  have low : isLowSurrogate c.toNat = false := by
    simp [isLowSurrogate]
    omega
  have letter : letterOf c.toNat = c := by
    simp [letterOf, high, low]
  unfold escapedCodePoint
  rw [List.drop_one, List.tail_cons, unit]
  dsimp only
  split
  · rw [high, letter]
    rfl
  · rw [letter]

/-- One character is read at a time. -/
theorem stringBody_escape (whole : List Char) (fuel : Nat) (c : Char) {rest : List Char}
    (more : rest ≠ []) (done : List Letter) :
    stringBody whole (fuel + 1) (escape c ++ rest) done =
      stringBody whole fuel rest (.char c :: done) := by
  unfold escape
  split
  case h_8 quote backslash _ _ _ _ _ =>
    split
    · rename_i control
      rw [List.cons_append, List.cons_append, stringBody, escapedCodePoint_control control more]
    · rename_i plain
      rw [List.singleton_append, stringBody]
      · exact if_neg plain
      · exact quote
      · exact backslash
  all_goals rfl

theorem escape_ne_nil (c : Char) : escape c ≠ [] := by
  unfold escape
  split
  case h_8 => split <;> simp
  all_goals simp

theorem stringBody_flatMap (whole : List Char) (fuel : Nat) (cs rest : List Char)
    (done : List Letter) (enough : cs.length < fuel) :
    stringBody whole fuel (cs.flatMap escape ++ '"' :: rest) done =
      .ok (done.reverse ++ cs.map .char, rest) := by
  induction cs generalizing fuel done with
  | nil =>
    obtain ⟨fuel, rfl⟩ := Nat.exists_eq_add_of_lt enough
    simp [stringBody]
  | cons c cs ih =>
    obtain ⟨fuel, rfl⟩ : ∃ k, fuel = k + 1 := ⟨fuel - 1, by omega⟩
    rw [List.flatMap_cons, List.append_assoc, stringBody_escape whole fuel c (by simp),
      ih fuel (.char c :: done) (by simpa using enough)]
    simp

theorem length_le_flatMap_escape (cs : List Char) : cs.length ≤ (cs.flatMap escape).length := by
  induction cs with
  | nil => simp
  | cons c cs ih =>
    have one := List.length_pos_iff.mpr (escape_ne_nil c)
    rw [List.flatMap_cons, List.length_append, List.length_cons]
    omega

/-- A written string is read as the text it was written for. -/
theorem string_flatMap (cs rest : List Char) :
    string (cs.flatMap escape ++ '"' :: rest) = .ok (.ofChars cs, rest) := by
  have short := length_le_flatMap_escape cs
  have enough : cs.length < (cs.flatMap escape ++ '"' :: rest).length + 1 := by
    rw [List.length_append]
    omega
  rw [string, stringBody_flatMap _ _ _ _ _ enough]
  rfl

end DesignTokens.Json
