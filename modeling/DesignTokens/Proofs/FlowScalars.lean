import DesignTokens.Proofs.Cursors
import DesignTokens.Proofs.JsonSpelling

/-!
# Scalars of JSON in YAML

A string between double quotes is read piece by piece, with the escapes of JSON among those of YAML;
only a pair of surrogates is read as two letters. A word in a flow collection is read up to its
end, together with the gap behind it.
-/

namespace DesignTokens

/-- The letters that a piece of a string is read as, one for each code unit. -/
def Json.Piece.units : Json.Piece → List Letter
  | .plain c _ _ _ => [c]
  | .escape _ c _ => [c]
  | .unit u => [letterOf u.value]
  | .pair high low _ _ => [letterOf high.value, letterOf low.value]

namespace Yaml

open Json (Piece CodeUnit quotedText)

theorem hexValue?_lt {c : Char} {n : Nat} (value : Json.hexValue? c = some n) : n < 16 := by
  unfold Json.hexValue? at value
  split at value
  · rename_i digit
    cases value
    have bounds := Char.isDigit_iff_toNat.mp digit
    have : '9'.toNat = 57 := rfl
    omega
  · split at value
    · rename_i lower
      cases value
      have : c.toNat ≤ 'f'.toNat := lower.2
      have : 'f'.toNat = 102 := rfl
      omega
    · split at value
      · rename_i upper
        cases value
        have : c.toNat ≤ 'F'.toNat := upper.2
        have : 'F'.toNat = 70 := rfl
        omega
      · cases value

theorem exists_digits (u : CodeUnit) :
    ∃ a b c d w x y z, u.digits = [a, b, c, d] ∧ Json.hexValue? a = some w ∧
      Json.hexValue? b = some x ∧ Json.hexValue? c = some y ∧ Json.hexValue? d = some z ∧
      u.value = ((w * 16 + x) * 16 + y) * 16 + z := by
  have four := u.four
  have number := u.number
  generalize u.digits = digits at four number ⊢
  rcases digits with _ | ⟨a, _ | ⟨b, _ | ⟨c, _ | ⟨d, _ | ⟨e, more⟩⟩⟩⟩⟩
  case cons.cons.cons.cons.nil =>
    simp only [Json.hexNumber?, List.foldl, Option.bind_some, Option.map_eq_some_iff,
      Option.bind_eq_some_iff] at number
    obtain ⟨-, ⟨-, ⟨-, ⟨w, ha, rfl⟩, x, hb, rfl⟩, y, hc, rfl⟩, z, hd, value⟩ := number
    exact ⟨a, b, c, d, w, x, y, z, rfl, ha, hb, hc, hd, by omega⟩
  all_goals simp at four

/-- A code unit has sixteen bits. -/
theorem codeUnit_lt (u : CodeUnit) : u.value < 0x10000 := by
  obtain ⟨a, b, c, d, w, x, y, z, -, ha, hb, hc, hd, value⟩ := exists_digits u
  have := hexValue?_lt ha
  have := hexValue?_lt hb
  have := hexValue?_lt hc
  have := hexValue?_lt hd
  omega

theorem newline_notMem_digits (u : CodeUnit) : '\n' ∉ u.digits := by
  obtain ⟨a, b, c, d, w, x, y, z, digits, ha, hb, hc, hd, -⟩ := exists_digits u
  have none : Json.hexValue? '\n' = none := rfl
  rw [digits]
  intro h
  simp only [List.mem_cons, List.not_mem_nil, or_false] at h
  rcases h with rfl | rfl | rfl | rfl
  · exact absurd (none.symm.trans ha) nofun
  · exact absurd (none.symm.trans hb) nofun
  · exact absurd (none.symm.trans hc) nofun
  · exact absurd (none.symm.trans hd) nofun

variable {cur : Cursor} {rest : List Char}

theorem escape_letter {letter c : Char} (known : Json.simpleEscape? letter = some c)
    (here : cur.rest = '\\' :: letter :: rest) : escape cur = .ok ([c], cur.skip 2) := by
  have next : cur.next.rest = letter :: rest := by rw [Cursor.rest_next, here]; rfl
  have listed : escapes.lookup letter = some c := by
    unfold Json.simpleEscape? at known
    split at known <;> cases known <;> rfl
  unfold escape
  dsimp only
  rw [Cursor.head_eq next, listed]
  rfl

theorem escape_unit {u : CodeUnit} (here : cur.rest = '\\' :: 'u' :: (u.digits ++ rest)) :
    escape cur = .ok ([Json.letterOf u.value], cur.skip 6) := by
  obtain ⟨a, b, c, d, -, -, -, -, digits, -⟩ := exists_digits u
  have next : cur.next.rest = 'u' :: (u.digits ++ rest) := by rw [Cursor.rest_next, here]; rfl
  have behind : cur.next.next.rest = [a, b, c, d] ++ rest := by
    rw [Cursor.rest_next, next, ← digits]
    rfl
  have four : (List.range 4).map cur.next.next.peek = u.digits := by
    rw [digits]
    simp [List.range_succ, Cursor.peek, behind]
  have small : ¬0x110000 ≤ u.value := by
    have := codeUnit_lt u
    omega
  unfold escape
  dsimp only
  rw [Cursor.head_eq next]
  have listed : escapes.lookup 'u' = none := rfl
  have width : escapeWidth? 'u' = some 4 := rfl
  rw [listed]
  dsimp only
  rw [width]
  dsimp only
  rw [four, u.number]
  exact if_neg small

theorem newline_notMem_pieces (ps : List Piece) : '\n' ∉ ps.flatMap Piece.text := by
  intro h
  obtain ⟨p, -, hp⟩ := List.mem_flatMap.mp h
  cases p with
  | plain c quote backslash printable =>
    cases List.mem_singleton.mp hp
    exact printable (by decide)
  | escape letter c known =>
    simp [Piece.text] at hp
    subst hp
    cases known
  | unit u => simp [Piece.text, newline_notMem_digits] at hp
  | pair high low h l => simp [Piece.text, newline_notMem_digits] at hp

/-- No piece stands for itself that ends a line. -/
def Inside (ps : List Piece) : Prop := ∀ c ∈ ps.flatMap Piece.text, isBreak c = false

theorem plain_ne_end {c : Char} (printable : ¬c.toNat < 0x20) : c ≠ endOfText := by
  rintro rfl
  exact printable (by decide)

/-- Behind some pieces comes the text or a quote, but no end of a line and no end of the text. -/
theorem Inside.head {ps : List Piece} (inside : Inside ps) (rest : List Char) :
    ∀ c ∈ (ps.flatMap Piece.text ++ '"' :: rest).head?, isBreak c = false ∧ c ≠ endOfText := by
  intro c hc
  cases ps with
  | nil =>
    cases hc
    decide
  | cons p ps =>
    have first : ∀ d ∈ p.text, isBreak d = false := fun d hd => inside d (by simp [hd])
    cases p with
    | plain d quote backslash printable =>
      cases hc
      exact ⟨first c (by simp [Piece.text]), plain_ne_end printable⟩
    | escape letter d known | unit u | pair high low h l =>
      cases hc
      decide

/-- The pieces in front that stand for themselves and are of a class, and those behind them. -/
theorem exists_run {q : Char → Bool} (quote : q '"' = false) (backslash : q '\\' = false)
    (ps : List Piece) (rest : List Char) :
    ∃ run more : List Piece, ps = run ++ more ∧ (∀ c ∈ run.flatMap Piece.text, q c) ∧
      run.flatMap Piece.units = (run.flatMap Piece.text).map .char ∧
      ∀ c ∈ (more.flatMap Piece.text ++ '"' :: rest).head?, q c = false := by
  induction ps with
  | nil => exact ⟨[], [], rfl, by simp, rfl, by simpa using quote⟩
  | cons p ps ih =>
    cases p with
    | plain c h₁ h₂ h₃ =>
      by_cases here : q c = true
      · obtain ⟨run, more, rfl, all, same, ends⟩ := ih
        refine ⟨.plain c h₁ h₂ h₃ :: run, more, rfl, ?_, ?_, ends⟩
        · exact List.forall_mem_cons.mpr ⟨here, all⟩
        · rw [List.flatMap_cons, List.flatMap_cons, same]
          rfl
      · refine ⟨[], _, rfl, by simp, rfl, ?_⟩
        simpa [Piece.text] using here
    | escape letter d known | unit u | pair high low h l =>
      refine ⟨[], _, rfl, by simp, rfl, ?_⟩
      simpa [Piece.text] using backslash

theorem quotedSpaces_eq {blanks : List Char} (here : cur.rest = blanks ++ rest)
    (all : ∀ c ∈ blanks, isFlowBlank c) (ends : ∀ c ∈ rest.head?, isFlowBlank c = false)
    (inside : ∀ c ∈ rest.head?, isBreak c = false ∧ c ≠ endOfText) (more : rest ≠ []) :
    quotedSpaces cur = .ok (blanks, cur.skip blanks.length) := by
  obtain ⟨c, tail, rfl⟩ := List.exists_cons_of_ne_nil more
  have behind : (cur.skip blanks.length).rest = c :: tail := Cursor.rest_skip_append here
  unfold quotedSpaces
  rw [Cursor.span_eq here all ends]
  dsimp only
  rw [Cursor.head_eq behind, if_neg (inside c rfl).2,
    Cursor.lineBreak_none fun d hd => (inside d (behind ▸ hd)).1]

/-- A round of reading the inside of a string takes some pieces off the text, at least one. -/
def Advances (fuel : Nat) (cur : Cursor) (done : List Letter) (ps : List Piece) : Prop :=
  ∃ (cs : List Char) (letters : List Letter) (more : List Piece), letters ≠ [] ∧
    ps.flatMap Piece.text = cs ++ more.flatMap Piece.text ∧
    ps.flatMap Piece.units = letters ++ more.flatMap Piece.units ∧
    quotedFrom true (fuel + 1) cur done = quotedFrom true fuel (cur.skip cs.length) (done ++ letters)

/-- The longest run of a class in front of some pieces that begins with a character of the class. -/
theorem exists_run_cons {q : Char → Bool} (noQuote : q '"' = false) (noBackslash : q '\\' = false)
    {c : Char} (hc : q c = true) (quote : c ≠ '"') (backslash : c ≠ '\\')
    (printable : ¬c.toNat < 0x20) (ps : List Piece) (rest : List Char) :
    ∃ (cs : List Char) (more : List Piece), cs ≠ [] ∧ (∀ d ∈ cs, q d) ∧
      (Piece.plain c quote backslash printable :: ps).flatMap Piece.text =
        cs ++ more.flatMap Piece.text ∧
      (Piece.plain c quote backslash printable :: ps).flatMap Piece.units =
        cs.map .char ++ more.flatMap Piece.units ∧
      ∀ d ∈ (more.flatMap Piece.text ++ '"' :: rest).head?, q d = false := by
  obtain ⟨run, more, rfl, all, same, ends⟩ := exists_run noQuote noBackslash ps rest
  refine ⟨c :: run.flatMap Piece.text, more, by simp, ?_, ?_, ?_, ends⟩
  · exact List.forall_mem_cons.mpr ⟨hc, all⟩
  · simp [Piece.text]
  · simp [Piece.units, same]

/-- A character that stands for itself is a blank, an apostrophe, or the start of a run of others. -/
theorem advances_plain {fuel : Nat} {c : Char} {quote : c ≠ '"'} {backslash : c ≠ '\\'}
    {printable : ¬c.toNat < 0x20} {ps : List Piece}
    (inside : Inside (.plain c quote backslash printable :: ps)) (done : List Letter)
    (here : cur.rest =
      (Piece.plain c quote backslash printable :: ps).flatMap Piece.text ++ '"' :: rest) :
    Advances fuel cur done (.plain c quote backslash printable :: ps) := by
  have first : cur.head = c := Cursor.head_eq here
  have within : isBreak c = false := inside c (by simp [Piece.text])
  have solid : c ≠ endOfText := plain_ne_end printable
  have no_tab : c ≠ '\t' := fun h => printable (h ▸ by decide)
  have visible : isBlankOrEnd c = decide (c = ' ') := by
    simp [isBlankOrEnd, isSpaceOrEnd, isBreakOrEnd, within, solid, no_tab]
  have moved {cs : List Char} {more : List Piece}
      (text : (Piece.plain c quote backslash printable :: ps).flatMap Piece.text =
        cs ++ more.flatMap Piece.text) :
      cur.rest = cs ++ (more.flatMap Piece.text ++ '"' :: rest) := by
    rw [here, text, List.append_assoc]
  rw [Advances, quotedFrom]
  dsimp only
  rw [first, if_neg (by simp), if_pos rfl, if_neg quote, if_neg (by simp [backslash])]
  by_cases blank : c = ' '
  · obtain ⟨cs, more, some, all, text, units, ends⟩ :=
      exists_run_cons (q := isFlowBlank) rfl rfl (by simp [isFlowBlank, blank]) quote backslash
        printable ps rest
    have left : Inside more := fun d hd => inside d (text ▸ List.mem_append_right _ hd)
    have spaces := quotedSpaces_eq (moved text) all ends (left.head rest) (by simp)
    refine ⟨cs, cs.map .char, more, by simpa using some, text, units, ?_⟩
    rw [if_pos (visible.trans (decide_eq_true blank)), spaces]
    rfl
  · by_cases mark : c = '\''
    · refine ⟨[c], [.char c], ps, by simp, rfl, rfl, ?_⟩
      rw [if_neg (by simp [visible, blank]), if_pos (by simp [mark])]
      rfl
    · obtain ⟨cs, more, some, all, text, units, ends⟩ :=
        exists_run_cons (q := fun c => !(isBlankOrEnd c || c = '\'' || c = '"' || c = '\\')) rfl rfl
          (by simp [visible, blank, mark, quote, backslash]) quote backslash printable ps rest
      refine ⟨cs, cs.map .char, more, by simpa using some, text, units, ?_⟩
      rw [if_neg (by simp [visible, blank]), if_neg (by simp [mark, quote, backslash]),
        Cursor.span_eq (moved text) all ends]

/-- An escape is read on its own, and of two surrogates the first one. -/
theorem advances_cons {fuel : Nat} {p : Piece} {ps : List Piece} (inside : Inside (p :: ps))
    (done : List Letter) (here : cur.rest = (p :: ps).flatMap Piece.text ++ '"' :: rest) :
    Advances fuel cur done (p :: ps) := by
  cases p with
  | plain c quote backslash printable => exact advances_plain inside done here
  | escape letter c known =>
    have moved : cur.rest = '\\' :: letter :: (ps.flatMap Piece.text ++ '"' :: rest) := here
    refine ⟨['\\', letter], [.char c], ps, by simp, rfl, rfl, ?_⟩
    rw [quotedFrom]
    dsimp only
    rw [Cursor.head_eq moved, escape_letter known moved]
    rfl
  | unit u =>
    have moved : cur.rest = '\\' :: 'u' :: (u.digits ++ (ps.flatMap Piece.text ++ '"' :: rest)) := by
      simpa [Piece.text] using here
    have six : ('\\' :: 'u' :: u.digits).length = 6 := by simp [u.four]
    refine ⟨'\\' :: 'u' :: u.digits, [Json.letterOf u.value], ps, by simp, rfl, rfl, ?_⟩
    rw [quotedFrom]
    dsimp only
    rw [Cursor.head_eq moved, escape_unit moved, six]
    rfl
  | pair high low h l =>
    have moved : cur.rest = '\\' :: 'u' :: (high.digits ++
        ('\\' :: 'u' :: low.digits ++ (ps.flatMap Piece.text ++ '"' :: rest))) := by
      simpa [Piece.text] using here
    have six : ('\\' :: 'u' :: high.digits).length = 6 := by simp [high.four]
    refine ⟨'\\' :: 'u' :: high.digits, [Json.letterOf high.value], .unit low :: ps, by simp, ?_,
      rfl, ?_⟩
    · simp [Piece.text]
    · rw [quotedFrom]
      dsimp only
      rw [Cursor.head_eq moved, escape_unit moved, six]
      rfl

/-- The inside of a string, round by round, up to its closing quote. -/
theorem quotedFrom_eq {fuel : Nat} {ps : List Piece} (inside : Inside ps) (done : List Letter)
    (here : cur.rest = ps.flatMap Piece.text ++ '"' :: rest)
    (enough : (ps.flatMap Piece.units).length < fuel) :
    quotedFrom true fuel cur done =
      .ok (done ++ ps.flatMap Piece.units, cur.skip ((ps.flatMap Piece.text).length + 1)) := by
  induction fuel generalizing cur ps done with
  | zero => cases enough
  | succ fuel ih =>
    cases ps with
    | nil =>
      unfold quotedFrom
      rw [Cursor.head_eq here]
      simp [Cursor.skip]
    | cons p ps =>
      have advances : Advances fuel cur done (p :: ps) := advances_cons inside done here
      obtain ⟨cs, letters, more, some, text, units, round⟩ := advances
      have moved : cur.rest = cs ++ (more.flatMap Piece.text ++ '"' :: rest) := by
        rw [here, text, List.append_assoc]
      have left : Inside more := fun c hc => inside c (text ▸ List.mem_append_right _ hc)
      have short : (more.flatMap Piece.units).length < fuel := by
        have taken := List.length_pos_iff.mpr some
        rw [units, List.length_append] at enough
        omega
      rw [round, ih left (done ++ letters) (Cursor.rest_skip_append moved) short, Cursor.skip_add, text,
        units]
      simp [Nat.add_assoc]

theorem length_units_le (ps : List Piece) :
    (ps.flatMap Piece.units).length ≤ (ps.flatMap Piece.text).length := by
  induction ps with
  | nil => exact Nat.le_refl 0
  | cons p ps ih =>
    have first : p.units.length ≤ p.text.length := by
      cases p <;> simp [Piece.units, Piece.text]
    rw [List.flatMap_cons, List.flatMap_cons, List.length_append, List.length_append]
    omega

/-- A string of JSON in YAML. -/
theorem quotedScalar_eq {ps : List Piece} (inside : Inside ps)
    (here : cur.rest = quotedText ps ++ rest) :
    quotedScalar true cur =
      .ok (⟨ps.flatMap Piece.units⟩, cur.skip (quotedText ps).length) := by
  have moved : cur.next.rest = ps.flatMap Piece.text ++ '"' :: rest := by
    rw [Cursor.rest_next, here]
    simp [quotedText]
  have enough : (ps.flatMap Piece.units).length < cur.rest.length + 1 := by
    have := length_units_le ps
    simp only [here, quotedText, List.cons_append, List.length_cons, List.length_append]
    omega
  unfold quotedScalar
  rw [quotedFrom_eq inside [] moved enough]
  simp only [quotedText, List.length_cons, List.length_append, Cursor.skip]
  rfl

/-- A character that neither ends a plain scalar in a flow collection nor may do so. -/
def isInert (c : Char) : Bool :=
  !(isBlankOrEnd c || c = ':' || isFlowMark c || c = '?' || c = '#')

theorem plainRun_inert {w rest : List Char} (inert : ∀ c ∈ w, isInert c) :
    plainRun true (w ++ rest) = w ++ plainRun true rest := by
  induction w with
  | nil => rfl
  | cons c w ih =>
    obtain ⟨first, inert⟩ := List.forall_mem_cons.mp inert
    simp only [isInert, Bool.not_eq_true', Bool.or_eq_false_iff] at first
    rw [List.cons_append, plainRun]
    simp [first, ih inert]

theorem plainRun_end {c : Char} (rest : List Char) (ends : isBlankOrEnd c || isFlowMark c) :
    plainRun true (c :: rest) = [] := by
  rw [plainRun, if_pos]
  rcases Bool.or_eq_true_iff.mp ends with h | h <;> simp [h]

section

variable {gap tail : List Char} {m : Char}

theorem isFlowMark_cases (mark : isFlowMark m) :
    m = ',' ∨ m = '[' ∨ m = ']' ∨ m = '\x7b' ∨ m = '\x7d' := by
  simpa [isFlowMark, or_assoc] using mark

theorem settled_of_isFlowMark (mark : isFlowMark m) : Settled (m :: tail) := by
  refine settled_cons tail ?_
  rcases isFlowMark_cases mark with rfl | rfl | rfl | rfl | rfl <;> decide

/-- Behind a word there is a gap and a mark, so no document ends there. -/
theorem atSeparator_eq_false (soft : ∀ c ∈ gap, isSoft c) (mark : isFlowMark m)
    (here : cur.rest = gap ++ m :: tail) : cur.atSeparator = false := by
  have first : cur.peek 0 ≠ '-' ∧ cur.peek 0 ≠ '.' := by
    rw [Cursor.peek, here]
    cases gap with
    | nil => rcases isFlowMark_cases mark with rfl | rfl | rfl | rfl | rfl <;> simp
    | cons c gap =>
      rcases Bool.or_eq_true_iff.mp (soft c List.mem_cons_self) with h | h <;>
        simp [of_decide_eq_true h]
  simp [Cursor.atSeparator, Cursor.atMarks, first]

theorem plainBreaks_eq {fuel : Nat} (soft : ∀ c ∈ gap, isSoft c) (mark : isFlowMark m)
    (here : cur.rest = gap ++ m :: tail) (enough : gap.length < fuel) :
    ∃ breaks, plainBreaks fuel cur = (some breaks, cur.skip gap.length) := by
  induction fuel generalizing cur gap with
  | zero => cases enough
  | succ fuel ih =>
    obtain ⟨spaces, more, rfl, space, ends⟩ := exists_line_of_soft soft
    rw [List.append_assoc] at here
    have behind : (cur.skip spaces.length).rest = more ++ m :: tail := Cursor.rest_skip_append here
    unfold plainBreaks Cursor.skipWhile
    rcases ends with rfl | ⟨next, rfl⟩
    · have settled : Settled ([] ++ m :: tail) := settled_of_isFlowMark mark
      rw [Cursor.span_eq here space settled.isSpace]
      dsimp only
      rw [Cursor.lineBreak_none fun c hc => (settled c (behind ▸ hc)).2.1, List.append_nil]
      exact ⟨[], rfl⟩
    · have moved : (cur.skip spaces.length).next.rest = next ++ m :: tail := by
        rw [Cursor.rest_next, behind]
        rfl
      have left : ∀ c ∈ next, isSoft c := fun c hc => soft c (by simp [hc])
      have less : next.length < fuel := by
        simp at enough
        omega
      obtain ⟨breaks, hbreaks⟩ := ih left moved less
      rw [Cursor.span_eq here space (by simp [isSpace])]
      dsimp only
      rw [Cursor.lineBreak_newline behind]
      dsimp only
      rw [atSeparator_eq_false left mark moved, if_neg Bool.false_ne_true, hbreaks,
        Cursor.skip_next_skip _ _ _ '\n']
      exact ⟨_, rfl⟩

/-- Behind a word the gap is passed; across a line end there is something to join with. -/
theorem plainSpaces_eq (soft : ∀ c ∈ gap, isSoft c) (mark : isFlowMark m)
    (here : cur.rest = gap ++ m :: tail) :
    ∃ spaces crossed, plainSpaces cur = (spaces, crossed, cur.skip gap.length) := by
  obtain ⟨spaces, more, rfl, space, ends⟩ := exists_line_of_soft soft
  rw [List.append_assoc] at here
  have behind : (cur.skip spaces.length).rest = more ++ m :: tail := Cursor.rest_skip_append here
  unfold plainSpaces
  rcases ends with rfl | ⟨next, rfl⟩
  · have settled : Settled ([] ++ m :: tail) := settled_of_isFlowMark mark
    rw [Cursor.span_eq here space settled.isSpace]
    dsimp only
    rw [Cursor.lineBreak_none fun c hc => (settled c (behind ▸ hc)).2.1, List.append_nil]
    exact ⟨_, _, rfl⟩
  · have moved : (cur.skip spaces.length).next.rest = next ++ m :: tail := by
      rw [Cursor.rest_next, behind]
      rfl
    have left : ∀ c ∈ next, isSoft c := fun c hc => soft c (by simp [hc])
    have less : next.length < (cur.skip spaces.length).next.rest.length + 1 := by
      rw [moved, List.length_append]
      omega
    obtain ⟨breaks, hbreaks⟩ := plainBreaks_eq left mark moved less
    rw [Cursor.span_eq here space (by simp [isSpace])]
    dsimp only
    rw [Cursor.lineBreak_newline behind]
    dsimp only
    rw [atSeparator_eq_false left mark moved, if_neg Bool.false_ne_true, hbreaks,
      Cursor.skip_next_skip _ _ _ '\n']
    exact ⟨_, _, rfl⟩

/-- In front of a mark a plain scalar ends. -/
theorem plainFrom_end {fuel : Nat} {indent : Int} (mark : isFlowMark m) (here : cur.rest = m :: tail)
    (done spaces : List Char) (crossed : Bool) :
    plainFrom true indent fuel cur done spaces crossed = (done, crossed, cur) := by
  cases fuel with
  | zero => rfl
  | succ fuel =>
    unfold plainFrom
    rw [here, plainRun_end tail (by simp [mark])]
    simp

theorem isInert_of_head {w : List Char} (some : w ≠ []) (inert : ∀ c ∈ w, isInert c)
    (here : cur.rest = w ++ rest) : isInert cur.head := by
  obtain ⟨c, w, rfl⟩ := List.exists_cons_of_ne_nil some
  rw [Cursor.head_eq here]
  exact inert c List.mem_cons_self

/-- A word of JSON in YAML. -/
theorem plainScalar_eq {w : List Char} (indent : Int) (some : w ≠ []) (inert : ∀ c ∈ w, isInert c)
    (soft : ∀ c ∈ gap, isSoft c) (mark : isFlowMark m) (here : cur.rest = w ++ (gap ++ m :: tail)) :
    ∃ crossed, plainScalar true indent cur =
      (Text.ofChars w, crossed, cur.skip (w ++ gap).length) := by
  have behind : (cur.skip w.length).rest = gap ++ m :: tail := Cursor.rest_skip_append here
  have comment : cur.head ≠ '#' := fun h => by simpa [h, isInert] using isInert_of_head some inert here
  have stop : plainRun true (gap ++ m :: tail) = [] := by
    cases gap with
    | nil => exact plainRun_end tail (by simp [mark])
    | cons c gap =>
      refine plainRun_end _ ?_
      rcases Bool.or_eq_true_iff.mp (soft c List.mem_cons_self) with h | h <;>
        rw [of_decide_eq_true h] <;> rfl
  have run : plainRun true cur.rest = w := by
    rw [here, plainRun_inert inert, stop, List.append_nil]
  obtain ⟨spaces, crossed, hspaces⟩ := plainSpaces_eq soft mark behind
  rw [Cursor.skip_add, ← List.length_append] at hspaces
  have last : (cur.skip (w ++ gap).length).rest = m :: tail := by
    rw [List.length_append, ← Cursor.skip_add]
    exact Cursor.rest_skip_append behind
  have whole (fuel : Nat) : plainFrom true indent (fuel + 1) cur [] [] false =
      (w, crossed, cur.skip (w ++ gap).length) := by
    unfold plainFrom
    rw [if_neg comment, run]
    dsimp only
    rw [if_neg (by simpa using some), hspaces]
    dsimp only
    rw [plainFrom_end mark last]
    split <;> simp
  refine ⟨crossed, ?_⟩
  unfold plainScalar
  rw [whole]

end

end Yaml

end DesignTokens
