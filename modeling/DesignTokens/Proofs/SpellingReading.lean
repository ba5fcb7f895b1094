import DesignTokens.Proofs.JsonRoundTrip
import DesignTokens.Proofs.JsonSpelling

/-!
# Reading what is spelled

A spelled text is read as the value of its spelling, so the spelling of a text tells all about how it
is read. Only the codes of surrogates need care: two of them that stand next to each other are read
as one character, so they have to be spelled as one piece.
-/

namespace DesignTokens.Json

/-- Behind a first surrogate there is no second one. -/
def Ends (u : CodeUnit) (cs : List Char) : Prop :=
  isHighSurrogate u.value → ∀ more, cs = '\\' :: 'u' :: more →
    ∃ v after, codeUnit? more = some (v, after) ∧ isLowSurrogate v = false

theorem escapedCodePoint_unit (u : CodeUnit) {cs : List Char} (more : cs ≠ []) (ends : Ends u cs) :
    escapedCodePoint ('u' :: (u.digits ++ cs)) = .ok (letterOf u.value, cs) := by
  unfold escapedCodePoint
  rw [List.drop_one, List.tail_cons, codeUnit?_digits u more]
  dsimp only
  split
  · rename_i behind
    split
    · rename_i high
      rw [Bool.and_eq_true] at high
      obtain ⟨v, after, read, other⟩ := ends high.1 behind rfl
      rw [read]
      dsimp only
      rw [other, if_neg Bool.false_ne_true]
    · rfl
  · rfl

theorem escapedCodePoint_pair {high low : CodeUnit} (first : isHighSurrogate high.value)
    (second : isLowSurrogate low.value) {cs : List Char} (more : cs ≠ []) :
    escapedCodePoint ('u' :: (high.digits ++ '\\' :: 'u' :: (low.digits ++ cs))) =
      .ok ((Piece.pair high low first second).letter, cs) := by
  have enough : 5 ≤ (low.digits ++ cs).length := by
    have pos := List.length_pos_iff.mpr more
    rw [List.length_append, low.four]
    omega
  unfold escapedCodePoint
  rw [List.drop_one, List.tail_cons, codeUnit?_digits high (by simp)]
  simp only [first, enough, decide_true, Bool.and_self, if_true, codeUnit?_digits low more, second]
  rfl

/-- One piece is read at a time. -/
theorem stringBody_piece (whole : List Char) (fuel : Nat) (p : Piece) {cs : List Char} (more : cs ≠ [])
    (ends : ∀ u, p = .unit u → Ends u cs) (done : List Letter) :
    stringBody whole (fuel + 1) (p.text ++ cs) done = stringBody whole fuel cs (p.letter :: done) := by
  cases p with
  | plain c quote backslash printable =>
    rw [Piece.text, List.singleton_append, stringBody]
    · exact if_neg printable
    · exact quote
    · exact backslash
  | escape letter c known =>
    unfold simpleEscape? at known
    split at known <;> cases known <;> rfl
  | unit u =>
    have read := escapedCodePoint_unit u more (ends u rfl)
    rw [Piece.text, List.cons_append, List.cons_append, stringBody, read]
    rfl
  | pair high low first second =>
    have read := escapedCodePoint_pair first second more
    have text : (Piece.pair high low first second).text ++ cs =
        '\\' :: 'u' :: (high.digits ++ '\\' :: 'u' :: (low.digits ++ cs)) := by simp [Piece.text]
    rw [text, stringBody, read]

theorem isLowSurrogate_eq_false {n : Nat} (high : isHighSurrogate n) : isLowSurrogate n = false := by
  simp only [isHighSurrogate, isLowSurrogate, Bool.and_eq_true, Bool.and_eq_false_iff,
    decide_eq_true_eq, decide_eq_false_iff_not] at high ⊢
  omega

/-- What stands behind a piece of a string does not change how it is read. -/
theorem ends_of_parted {u : CodeUnit} {ps : List Piece} (parted : Parted (.unit u :: ps))
    (rest : List Char) : Ends u (ps.flatMap Piece.text ++ '"' :: rest) := by
  intro high more text
  cases ps with
  | nil => cases text
  | cons q ps =>
    have other := (List.isChain_cons_cons.mp parted).1
    have nonempty : ps.flatMap Piece.text ++ '"' :: rest ≠ [] := by simp
    cases q with
    | plain c quote backslash printable =>
      rw [List.flatMap_cons] at text
      exact absurd (List.cons.inj text).1 backslash
    | escape letter c known =>
      rw [List.flatMap_cons] at text
      cases text
      cases known
    | unit v =>
      rw [List.flatMap_cons, List.append_assoc] at text
      have behind : v.digits ++ (ps.flatMap Piece.text ++ '"' :: rest) = more :=
        (List.cons.inj (List.cons.inj text).2).2
      refine ⟨v.value, _, by rw [← behind, codeUnit?_digits v nonempty], ?_⟩
      exact Bool.eq_false_iff.mpr fun low => other ⟨high, low⟩
    | pair v w first second =>
      rw [List.flatMap_cons, List.append_assoc] at text
      have behind : v.digits ++ '\\' :: 'u' :: w.digits ++ (ps.flatMap Piece.text ++ '"' :: rest) = more :=
        (List.cons.inj (List.cons.inj text).2).2
      rw [List.append_assoc] at behind
      exact ⟨v.value, _, by rw [← behind, codeUnit?_digits v (by simp)], isLowSurrogate_eq_false first⟩

theorem stringBody_pieces (whole : List Char) {fuel : Nat} {ps : List Piece} (parted : Parted ps)
    (enough : ps.length < fuel) (rest : List Char)
    (done : List Letter) :
    stringBody whole fuel (ps.flatMap Piece.text ++ '"' :: rest) done =
      .ok (done.reverse ++ ps.map Piece.letter, rest) := by
  induction ps generalizing fuel done with
  | nil =>
    obtain ⟨fuel, rfl⟩ := Nat.exists_eq_add_of_lt enough
    simp [stringBody]
  | cons p ps ih =>
    obtain ⟨fuel, rfl⟩ : ∃ k, fuel = k + 1 := ⟨fuel - 1, by omega⟩
    have ends : ∀ u, p = .unit u → Ends u (ps.flatMap Piece.text ++ '"' :: rest) := by
      rintro u rfl
      exact ends_of_parted parted rest
    rw [List.flatMap_cons, List.append_assoc, stringBody_piece whole fuel p (by simp) ends,
      ih parted.of_cons (by simpa using enough)]
    simp

theorem length_le_pieces (ps : List Piece) : ps.length ≤ (ps.flatMap Piece.text).length := by
  induction ps with
  | nil => exact Nat.le_refl 0
  | cons p ps ih =>
    have one : 1 ≤ p.text.length := by cases p <;> exact Nat.succ_pos _
    rw [List.flatMap_cons, List.length_append, List.length_cons]
    omega

/-- A string is read piece by piece. -/
theorem string_pieces {ps : List Piece} (parted : Parted ps) (rest : List Char) :
    string (ps.flatMap Piece.text ++ '"' :: rest) = .ok (leaves.string ps, rest) := by
  have short := length_le_pieces ps
  have enough : ps.length < (ps.flatMap Piece.text ++ '"' :: rest).length + 1 := by
    rw [List.length_append]
    omega
  rw [string, stringBody_pieces _ parted enough]
  rfl

/-- A word is read up to its last character. -/
theorem value_word (w : Word) (fuel : Nat) {rest : List Char} (apart : Apart rest) :
    value (fuel + 1) (w.text ++ rest) = .ok (w.value, rest) := by
  cases w with
  | named name v known =>
    simp only [words, List.mem_cons, Prod.mk.injEq, List.not_mem_nil, or_false] at known
    rcases known with ⟨rfl, rfl⟩ | ⟨rfl, rfl⟩ | ⟨rfl, rfl⟩ | ⟨rfl, rfl⟩ | ⟨rfl, rfl⟩ | ⟨rfl, rfl⟩ <;> rfl
  | number n =>
    obtain ⟨d, cs, digit, text⟩ := n.exists_digit
    have read (shown : List Char) := unsignedNumber_numeral n shown apart
    rw [Word.text, Numeral.text]
    cases negative : n.negative with
    | false =>
      rw [negative, text] at read
      rw [if_neg Bool.false_ne_true, text, List.cons_append, value_digit digit, ← List.cons_append, read]
      rfl
    | true =>
      rw [negative, text] at read
      rw [if_pos rfl, text, List.cons_append, List.cons_append, value_minus digit, ← List.cons_append, read]
      rfl

/-- What a text starts with, where a value is spelled. -/
theorem starts_word (w : Word) : Starts w.text := by
  cases w with
  | named name v known => exact (readAs_word known).starts
  | number n =>
    obtain ⟨d, cs, digit, text⟩ := n.exists_digit
    rw [Word.text, Numeral.text, text]
    have other {c : Char} (hc : c.isDigit = false) : d ≠ c := digit_ne digit hc
    split
    · exact ⟨'-', d :: cs, rfl, rfl, by decide⟩
    · exact ⟨d, cs, rfl, by simp [isSpace, other], other rfl, other rfl, other rfl⟩

theorem starts_text (sp : Spelling) : Starts sp.text := by
  cases sp with
  | word w => exact starts_word w
  | quoted _ | emptyList _ | list _ | emptyMap _ | map _ => exact ⟨_, _, rfl, rfl, by decide⟩

theorem skipSpace_gap (g : Gap) {c : Char} (hard : isSpace c = false) (more : List Char) :
    skipSpace (g.chars ++ c :: more) = c :: more := by
  rw [skipSpace, List.dropWhile_append_of_pos g.space, List.dropWhile_cons_of_neg (by simp [hard])]

theorem Starts.skipSpace_gap {cs : List Char} (starts : Starts cs) (g : Gap) :
    Json.skipSpace (g.chars ++ cs) = cs := by
  obtain ⟨c, more, rfl, hard, -⟩ := starts
  exact Json.skipSpace_gap g hard more

/-- No byte order mark stands in front of a spelled text. -/
theorem Starts.ne_mark {cs : List Char} (starts : Starts cs) (g : Gap) {more : List Char} :
    g.chars ++ cs ≠ '\uFEFF' :: more := by
  intro same
  cases h : g.chars with
  | nil =>
    obtain ⟨c, rest, text, -, -, -, other⟩ := starts
    rw [h, text] at same
    exact other (List.cons.inj same).1
  | cons c rest =>
    have space := g.space c (h ▸ List.mem_cons_self)
    rw [h] at same
    rw [(List.cons.inj same).1] at space
    cases space

theorem apart_cons {c : Char} (other : c ∉ numberChars) (more : List Char) : Apart (c :: more) := by
  rintro d ⟨⟩
  exact other

theorem Apart.gap {cs : List Char} (apart : Apart cs) (g : Gap) : Apart (g.chars ++ cs) := by
  cases h : g.chars with
  | nil => exact apart
  | cons c more =>
    refine apart_cons ?_ _
    have space := g.space c (h ▸ List.mem_cons_self)
    simp only [isSpace, Bool.or_eq_true, decide_eq_true_eq] at space
    rcases space with ((rfl | rfl) | rfl) | rfl <;> decide

theorem value_list {cs : List Char} (starts : Starts (skipSpace cs)) (fuel : Nat) :
    value (fuel + 1) ('[' :: cs) = (items fuel (skipSpace cs) []).map fun r => (.list r.1, r.2) := by
  obtain ⟨c, more, text, -, other, -⟩ := starts
  rw [value, text]
  split
  · rename_i same
    exact absurd (List.cons.inj same).1 other
  · rfl

theorem value_map {cs : List Char} (starts : Starts (skipSpace cs)) (fuel : Nat) :
    value (fuel + 1) ('\x7b' :: cs) = (members fuel (skipSpace cs) []).map fun r => (.map r.1, r.2) := by
  obtain ⟨c, more, text, -, -, other, -⟩ := starts
  rw [value, text]
  split
  · rename_i same
    exact absurd (List.cons.inj same).1 other
  · rfl

theorem starts_items (its : Items) (rest : List Char) : Starts (skipSpace (its.text ++ rest)) := by
  cases its with
  | last before item _ | more before item _ _ =>
    have starts := starts_text item
    rw [Items.text, List.append_assoc, List.append_assoc, (starts.append _).skipSpace_gap]
    exact starts.append _

theorem starts_members (ms : Members) (rest : List Char) : Starts (skipSpace (ms.text ++ rest)) := by
  cases ms with
  | last name _ _ | more name _ _ _ =>
    rw [Members.text, Name.text, List.append_assoc, List.append_assoc, quotedText, List.cons_append,
      List.cons_append, skipSpace_gap name.before rfl]
    exact ⟨_, _, rfl, rfl, by decide⟩

/-- Behind a name there are the colon and the value of the member. -/
theorem members_name (name : Name) (parted : Parted name.pieces) {inside behind : List Char} {v : Value}
    {fuel : Nat} (starts : Starts inside) (read : value fuel (inside ++ behind) = .ok (v, behind))
    (done : Entries) :
    members (fuel + 1) (skipSpace (name.text ++ (inside ++ behind))) done =
      afterEntry fuel (done.put (.text (leaves.string name.pieces)) v) (skipSpace behind) := by
  have text : name.text ++ (inside ++ behind) = name.before.chars ++ '"' ::
      (name.pieces.flatMap Piece.text ++ '"' :: (name.beforeColon.chars ++ ':' ::
        (name.behindColon.chars ++ (inside ++ behind)))) := by simp [Name.text, quotedText]
  rw [text, skipSpace_gap name.before rfl, members, string_pieces parted]
  simp only [skipSpace_gap name.beforeColon (c := ':') rfl, (starts.append behind).skipSpace_gap, read]
  rfl

mutual

/-- A spelled value is read as its value, up to its last character. -/
theorem value_spelling (sp : Spelling) (parted : ∀ ps ∈ sp.strings, Parted ps) {fuel : Nat}
    {rest : List Char} (enough : sp.text.length ≤ fuel) (apart : sp.isWord → Apart rest) :
    value fuel (sp.text ++ rest) = .ok (sp.value leaves, rest) := by
  obtain ⟨fuel, rfl⟩ : ∃ k, fuel = k + 1 := by
    obtain ⟨c, more, text, -⟩ := starts_text sp
    rw [text] at enough
    exact Nat.exists_eq_succ_of_ne_zero (by rintro rfl; cases enough)
  cases sp with
  | word w => exact value_word w fuel (apart rfl)
  | quoted ps =>
    rw [Spelling.text, quotedText, List.cons_append, List.append_assoc, value, List.singleton_append,
      string_pieces (parted ps List.mem_cons_self)]
    rfl
  | emptyList g =>
    rw [Spelling.text, List.cons_append, List.append_assoc, value, List.singleton_append,
      skipSpace_gap g rfl]
    rfl
  | list its =>
    rw [Spelling.text, List.cons_append, value_list (starts_items its rest),
      items_spelling its parted (Nat.le_of_succ_le_succ enough)]
    rfl
  | emptyMap g =>
    rw [Spelling.text, List.cons_append, List.append_assoc, value, List.singleton_append,
      skipSpace_gap g rfl]
    rfl
  | map ms =>
    rw [Spelling.text, List.cons_append, value_map (starts_members ms rest),
      members_spelling ms parted (Nat.le_of_succ_le_succ enough)]
    rfl

/-- The items of a list are read up to its closing bracket. -/
theorem items_spelling (its : Items) (parted : ∀ ps ∈ its.strings, Parted ps) {fuel : Nat}
    {rest : List Char} (enough : its.text.length ≤ fuel) (done : List Value) :
    items fuel (skipSpace (its.text ++ rest)) done = .ok (done.reverse ++ its.values leaves, rest) := by
  cases its with
  | last before item behind =>
    have text : (Items.last before item behind).text ++ rest =
        before.chars ++ (item.text ++ (behind.chars ++ ']' :: rest)) := by simp [Items.text]
    simp only [Items.text, List.length_append, List.length_singleton] at enough
    obtain ⟨fuel, rfl⟩ : ∃ k, fuel = k + 1 := ⟨fuel - 1, by omega⟩
    have read : value fuel (item.text ++ (behind.chars ++ ']' :: rest)) =
        .ok (item.value leaves, behind.chars ++ ']' :: rest) :=
      value_spelling item parted (by omega) fun _ => (apart_cons (by decide) _).gap behind
    rw [text, ((starts_text item).append _).skipSpace_gap, items, read]
    simp [skipSpace_gap behind, isSpace, Items.values]
  | more before item behind others =>
    have text : (Items.more before item behind others).text ++ rest =
        before.chars ++ (item.text ++ (behind.chars ++ ',' :: (others.text ++ rest))) := by
      simp [Items.text]
    simp only [Items.text, List.length_append, List.length_cons] at enough
    obtain ⟨fuel, rfl⟩ : ∃ k, fuel = k + 1 := ⟨fuel - 1, by omega⟩
    obtain ⟨parted₁, parted₂⟩ := List.forall_mem_append.mp parted
    have read : value fuel (item.text ++ (behind.chars ++ ',' :: (others.text ++ rest))) =
        .ok (item.value leaves, behind.chars ++ ',' :: (others.text ++ rest)) :=
      value_spelling item parted₁ (by omega) fun _ => (apart_cons (by decide) _).gap behind
    have more (done : List Value) : items fuel (skipSpace (others.text ++ rest)) done =
        .ok (done.reverse ++ others.values leaves, rest) :=
      items_spelling others parted₂ (by omega) done
    rw [text, ((starts_text item).append _).skipSpace_gap, items, read]
    simp [skipSpace_gap behind, isSpace, Items.values, more]

/-- The members of a mapping are put one by one, up to its closing brace. -/
theorem members_spelling (ms : Members) (parted : ∀ ps ∈ ms.strings, Parted ps) {fuel : Nat}
    {rest : List Char} (enough : ms.text.length ≤ fuel) (done : Entries) :
    members fuel (skipSpace (ms.text ++ rest)) done =
      .ok (Entries.putAll done (ms.entries leaves), rest) := by
  cases ms with
  | last name member behind =>
    have text : (Members.last name member behind).text ++ rest =
        name.text ++ (member.text ++ (behind.chars ++ '\x7d' :: rest)) := by simp [Members.text]
    simp only [Members.text, List.length_append, List.length_singleton] at enough
    obtain ⟨fuel, rfl⟩ : ∃ k, fuel = k + 1 := ⟨fuel - 1, by omega⟩
    obtain ⟨here, parted⟩ := List.forall_mem_cons.mp parted
    have read : value fuel (member.text ++ (behind.chars ++ '\x7d' :: rest)) =
        .ok (member.value leaves, behind.chars ++ '\x7d' :: rest) :=
      value_spelling member parted (by omega) fun _ => (apart_cons (by decide) _).gap behind
    rw [text, members_name name here (starts_text member) read, skipSpace_gap behind rfl]
    rfl
  | more name member behind others =>
    have text : (Members.more name member behind others).text ++ rest =
        name.text ++ (member.text ++ (behind.chars ++ ',' :: (others.text ++ rest))) := by
      simp [Members.text]
    simp only [Members.text, List.length_append, List.length_cons] at enough
    obtain ⟨fuel, rfl⟩ : ∃ k, fuel = k + 1 := ⟨fuel - 1, by omega⟩
    obtain ⟨here, parted⟩ := List.forall_mem_cons.mp parted
    obtain ⟨parted₁, parted₂⟩ := List.forall_mem_append.mp parted
    have read : value fuel (member.text ++ (behind.chars ++ ',' :: (others.text ++ rest))) =
        .ok (member.value leaves, behind.chars ++ ',' :: (others.text ++ rest)) :=
      value_spelling member parted₁ (by omega) fun _ => (apart_cons (by decide) _).gap behind
    rw [text, members_name name here (starts_text member) read, skipSpace_gap behind rfl, afterEntry,
      members_spelling others parted₂ (by omega)]
    rfl

end

/-- A spelled text has the value of its spelling. -/
theorem parse_spelling {sp : Spelling} (parted : ∀ ps ∈ sp.strings, Parted ps) (before behind : Gap) :
    parse (before.chars ++ (sp.text ++ behind.chars)) = .ok (sp.value leaves) := by
  have starts : Starts (sp.text ++ behind.chars) := (starts_text sp).append _
  have apart : Apart behind.chars := by
    have none : Apart [] := nofun
    simpa using none.gap behind
  have read (fuel : Nat) (enough : sp.text.length ≤ fuel) :
      value fuel (sp.text ++ behind.chars) = .ok (sp.value leaves, behind.chars) :=
    value_spelling sp parted enough fun _ => apart
  have none : skipSpace behind.chars = [] := List.dropWhile_eq_nil_iff.mpr behind.space
  have whole : Json.text (before.chars ++ (sp.text ++ behind.chars)) = .ok (sp.value leaves) := by
    unfold Json.text
    split
    · rename_i mark
      exact absurd mark (starts.ne_mark before)
    · rw [starts.skipSpace_gap, read _ (by rw [List.length_append, List.length_append]; omega)]
      dsimp only
      rw [none]
  rw [parse, whole]

/-- A text is spelled so, with a gap on both sides. -/
structure Spelling.Spells (sp : Spelling) (cs : List Char) : Prop where
  text : ∃ before behind : Gap, cs = before.chars ++ (sp.text ++ behind.chars)
  parted : ∀ ps ∈ sp.strings, Parted ps

/-- The texts that are read are the spelled ones. -/
theorem parse_eq_ok_iff (cs : List Char) (v : Value) :
    parse cs = .ok v ↔ ∃ sp : Spelling, sp.Spells cs ∧ sp.value leaves = v := by
  constructor
  · intro read
    obtain ⟨before, sp, behind, text, value, parted⟩ := exists_spelling_of_parse read
    exact ⟨sp, ⟨⟨before, behind, text⟩, parted⟩, value⟩
  · rintro ⟨sp, ⟨⟨before, behind, rfl⟩, parted⟩, rfl⟩
    exact parse_spelling parted before behind

end DesignTokens.Json
