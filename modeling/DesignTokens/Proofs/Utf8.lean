import DesignTokens.Text.Utf8

/-!
# Decoding what was encoded

The octets of a character begin with one that tells how many follow and in what range, and they are
decoded to that character. So a text is decoded to itself, and a string is what its octets are
decoded to.
-/

namespace DesignTokens.Text.Utf8

theorem tail_nil (code seen : Nat) (rest : List Nat) : tail code seen [] rest = .ok (code, rest) :=
  rfl

theorem tail_cons {code seen low high b : Nat} {ranges : List (Nat × Nat)} {rest : List Nat}
    (fits : low ≤ b ∧ b ≤ high) :
    tail code seen ((low, high) :: ranges) (b :: rest) =
      tail (code * 64 + b % 64) (seen + 1) ranges rest := by
  rw [tail, if_pos fits]

/-- The second of three octets is bounded for the first characters and for those before the
surrogates. -/
theorem lead_of_three {n : Nat} (least : 0x800 ≤ n) (most : n < 0x10000)
    (valid : n < 0xD800 ∨ 0xDFFF < n) :
    ∃ low high, lead (0xE0 + n / 4096) = some (n / 4096, [(low, high), (0x80, 0xBF)]) ∧
      low ≤ 0x80 + n / 64 % 64 ∧ 0x80 + n / 64 % 64 ≤ high := by
  rw [lead, if_neg (by omega), if_neg (by omega), if_neg (by omega)]
  split
  · exact ⟨0xA0, 0xBF, by congr 2; omega, by omega, by omega⟩
  split
  · exact ⟨0x80, 0x9F, by congr 2; omega, by omega, by omega⟩
  · rw [if_pos (by omega), Nat.add_sub_cancel_left]
    exact ⟨0x80, 0xBF, rfl, by omega, by omega⟩

/-- The second of four octets is bounded for the first characters and for the last ones. -/
theorem lead_of_four {n : Nat} (least : 0x10000 ≤ n) (most : n < 0x110000) :
    ∃ low high,
      lead (0xF0 + n / 262144) = some (n / 262144, [(low, high), (0x80, 0xBF), (0x80, 0xBF)]) ∧
        low ≤ 0x80 + n / 4096 % 64 ∧ 0x80 + n / 4096 % 64 ≤ high := by
  rw [lead, if_neg (by omega), if_neg (by omega), if_neg (by omega), if_neg (by omega),
    if_neg (by omega), if_neg (by omega)]
  split
  · exact ⟨0x90, 0xBF, by congr 2; omega, by omega, by omega⟩
  split
  · rw [Nat.add_sub_cancel_left]
    exact ⟨0x80, 0xBF, rfl, by omega, by omega⟩
  · rw [if_pos (by omega)]
    exact ⟨0x80, 0x8F, by congr 2; omega, by omega, by omega⟩

/-- The octets of a character, as numbers: the first one promises the others, and they keep it. -/
theorem octets_of_char (c : Char) (rest : List Nat) :
    ∃ b more code ranges, (encodeChar c).map UInt8.toNat = b :: more ∧
      lead b = some (code, ranges) ∧
      tail code 0 ranges (more ++ rest) = .ok (c.toNat, rest) := by
  have valid : c.toNat < 0xD800 ∨ (0xDFFF < c.toNat ∧ c.toNat < 0x110000) := c.valid
  unfold encodeChar
  dsimp only
  generalize c.toNat = n at valid
  have octet (k : Nat) (small : k < 256) : k.toUInt8.toNat = k := Nat.mod_eq_of_lt small
  split
  · rename_i one
    refine ⟨n, [], n, [], ?_, if_pos one, rfl⟩
    rw [List.map_singleton, octet n (by omega)]
  split
  · rename_i two
    refine ⟨0xC0 + n / 64, [0x80 + n % 64], n / 64, [(0x80, 0xBF)], ?_, ?_, ?_⟩
    · rw [List.map_cons, List.map_singleton, octet _ (by omega), octet _ (by omega)]
    · rw [lead, if_neg (by omega), if_neg (by omega), if_pos (by omega), Nat.add_sub_cancel_left]
    · rw [List.singleton_append, tail_cons (by omega), tail_nil]
      congr 2
      omega
  split
  · rename_i three
    have octets : List.map UInt8.toNat [(0xE0 + n / 4096).toUInt8, (0x80 + n / 64 % 64).toUInt8,
        (0x80 + n % 64).toUInt8] = [0xE0 + n / 4096, 0x80 + n / 64 % 64, 0x80 + n % 64] := by
      rw [List.map_cons, List.map_cons, List.map_singleton, octet _ (by omega), octet _ (by omega),
        octet _ (by omega)]
    obtain ⟨low, high, promised, bounded⟩ :=
      lead_of_three (n := n) (by omega) three (valid.imp_right And.left)
    refine ⟨_, _, _, _, octets, promised, ?_⟩
    rw [List.cons_append, List.singleton_append, tail_cons bounded, tail_cons (by omega), tail_nil]
    congr 2
    omega
  · rename_i four
    have octets : List.map UInt8.toNat [(0xF0 + n / 262144).toUInt8, (0x80 + n / 4096 % 64).toUInt8,
        (0x80 + n / 64 % 64).toUInt8, (0x80 + n % 64).toUInt8] =
        [0xF0 + n / 262144, 0x80 + n / 4096 % 64, 0x80 + n / 64 % 64, 0x80 + n % 64] := by
      rw [List.map_cons, List.map_cons, List.map_cons, List.map_singleton, octet _ (by omega),
        octet _ (by omega), octet _ (by omega), octet _ (by omega)]
    obtain ⟨low, high, promised, bounded⟩ := lead_of_four (n := n) (by omega) (by omega)
    refine ⟨_, _, _, _, octets, promised, ?_⟩
    rw [List.cons_append, List.cons_append, List.singleton_append, tail_cons bounded,
      tail_cons (by omega), tail_cons (by omega), tail_nil]
    congr 2
    omega

/-- One character is decoded at a time. -/
theorem decodeFrom_encodeChar (fuel position : Nat) (c : Char) (rest : List Nat)
    (done : List Char) :
    ∃ position', decodeFrom (fuel + 1) position ((encodeChar c).map UInt8.toNat ++ rest) done =
      decodeFrom fuel position' rest (c :: done) := by
  obtain ⟨b, more, code, ranges, octets, promised, kept⟩ := octets_of_char c rest
  refine ⟨position + 1 + ranges.length, ?_⟩
  rw [octets, List.cons_append, decodeFrom, promised]
  simp only [kept, Char.ofNat_toNat]

theorem decodeFrom_encode (fuel position : Nat) (cs done : List Char) (enough : cs.length ≤ fuel) :
    decodeFrom fuel position ((encode cs).map UInt8.toNat) done = .ok (done.reverse ++ cs) := by
  induction cs generalizing fuel position done with
  | nil => cases fuel <;> simp [decodeFrom, encode]
  | cons c cs ih =>
    cases fuel with
    | zero => simp at enough
    | succ fuel =>
      have octets : (encode (c :: cs)).map UInt8.toNat =
          (encodeChar c).map UInt8.toNat ++ (encode cs).map UInt8.toNat := by
        simp [encode]
      obtain ⟨position', step⟩ :=
        decodeFrom_encodeChar fuel position c ((encode cs).map UInt8.toNat) done
      rw [octets, step, ih fuel position' (c :: done) (Nat.le_of_succ_le_succ enough)]
      simp

theorem length_le_encode (cs : List Char) : cs.length ≤ (encode cs).length := by
  induction cs with
  | nil => simp
  | cons c cs ih =>
    obtain ⟨b, more, code, ranges, octets, -⟩ := octets_of_char c []
    have one : 1 ≤ (encodeChar c).length := by
      rw [← List.length_map UInt8.toNat, octets]
      simp
    simp only [encode, List.flatMap_cons, List.length_append, List.length_cons] at ih ⊢
    omega

/-- The octets of a text are decoded to the text. -/
theorem decode_encode (cs : List Char) : decode (encode cs) = .ok cs :=
  decodeFrom_encode _ 0 cs [] (length_le_encode cs)

/-- The octets of a character are those that a string has for it. -/
theorem encodeChar_eq (c : Char) : encodeChar c = String.utf8EncodeChar c := by
  have most : c.val.toNat < 0x110000 := by
    have valid := c.valid
    simp only [UInt32.isValidChar, Nat.isValidChar] at valid
    omega
  have below (k : Nat) : (c.val.toNat < k + 1) = (c.val.toNat ≤ k) := by
    rw [Nat.lt_succ_iff]
  have two : c.val.toNat ≤ 0x7FF → c.val.toNat / 64 % 32 = c.val.toNat / 64 := by omega
  have three : c.val.toNat ≤ 0xFFFF → c.val.toNat / 4096 % 16 = c.val.toNat / 4096 := by omega
  have four : c.val.toNat / 262144 % 8 = c.val.toNat / 262144 := by omega
  simp only [encodeChar, String.utf8EncodeChar, Char.toNat, below, Nat.toUInt8, four, Nat.add_comm]
  split
  · rfl
  · split
    case isTrue small => rw [two small]
    case isFalse =>
      split
      case isTrue small => rw [three small]
      case isFalse => rfl

theorem octets_of_string (s : String) : s.toByteArray.data.toList = encode s.toList := by
  rw [← String.utf8Encode_toList, List.utf8Encode, List.data_toByteArray, encode,
    funext encodeChar_eq]

end DesignTokens.Text.Utf8
