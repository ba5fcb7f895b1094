import DesignTokens.Proofs.FlowScalars

/-!
# The tokens of JSON in YAML

A text of JSON is split into the marks and scalars of flow collections. What one step takes from the
text is one token with the gap in front of it; a name gets the mark of a key once its colon is met,
which has to be on its line and near enough.
-/

namespace DesignTokens

namespace Json

/-- A name and its colon stand on one line, at most 1024 characters apart. -/
structure Name.Near (n : Name) : Prop where
  line : '\n' ∉ n.beforeColon.chars
  length : (quotedText n.pieces ++ n.beforeColon.chars).length ≤ 1024

mutual

/-- The names in a spelling. -/
def Spelling.names : Spelling → List Name
  | .word _ => []
  | .quoted _ => []
  | .emptyList _ => []
  | .list items => items.names
  | .emptyMap _ => []
  | .map members => members.names

def Items.names : Items → List Name
  | .last _ item _ => item.names
  | .more _ item _ rest => item.names ++ rest.names

def Members.names : Members → List Name
  | .last name member _ => name :: member.names
  | .more name member _ rest => name :: (member.names ++ rest.names)

end

def quotedToken (pieces : List Piece) : Yaml.Token :=
  .scalar ⟨pieces.flatMap Piece.units⟩ false

def Name.tokens (n : Name) : List Yaml.Token := [.key, quotedToken n.pieces, .value]

mutual

def Spelling.tokens : Spelling → List Yaml.Token
  | .word w => [.scalar (.ofChars w.text) true]
  | .quoted pieces => [quotedToken pieces]
  | .emptyList _ => [.flowSequenceStart, .flowSequenceEnd]
  | .list items => .flowSequenceStart :: items.tokens
  | .emptyMap _ => [.flowMappingStart, .flowMappingEnd]
  | .map members => .flowMappingStart :: members.tokens

def Items.tokens : Items → List Yaml.Token
  | .last _ item _ => item.tokens ++ [.flowSequenceEnd]
  | .more _ item _ rest => item.tokens ++ .flowEntry :: rest.tokens

def Members.tokens : Members → List Yaml.Token
  | .last name member _ => name.tokens ++ (member.tokens ++ [.flowMappingEnd])
  | .more name member _ rest => name.tokens ++ (member.tokens ++ .flowEntry :: rest.tokens)

end

end Json

namespace Yaml

open Json (Piece quotedText quotedToken)

/-- A character that both notations read alike in a text of JSON: one that YAML allows, no tab, and
no end of a line but a newline. -/
def isPortable (c : Char) : Bool := isAllowed c && c ≠ '\t' && (!isBreak c || c = '\n')

namespace Scan

/-- No block collection is open, and no key has to begin anywhere. -/
structure Flowing (s : Scan) : Prop where
  outer : s.outer = []
  indent : s.indent = -1
  keys : ∀ k ∈ s.keys, k.2.required = false

/-- The state stands in front of a text, up to a gap. -/
def At (s : Scan) (cs : List Char) : Prop := s.cur.rest.dropWhile isSoft = cs.dropWhile isSoft

/-- Steps that each take something from the text. -/
inductive Reaches : Scan → Scan → Prop
  | refl (s : Scan) : Reaches s s
  | step {s s₁ s₂ : Scan} (first : s.step = .ok (.inl s₁))
      (less : s₁.cur.rest.length < s.cur.rest.length) (rest : Reaches s₁ s₂) : Reaches s s₂

/-- Steps that give some tokens and come in front of what is left. -/
structure Advance (s s' : Scan) (ts : List Token) (rest : List Char) : Prop where
  reaches : Reaches s s'
  flowing : s'.Flowing
  done : s'.done = ts.reverse ++ s.done
  at_ : s'.At rest

variable {s s' s'' : Scan} {rest rest' gap tail : List Char} {c : Char} {ts us : List Token}

theorem Reaches.trans (first : Reaches s s') (second : Reaches s' s'') : Reaches s s'' := by
  induction first with
  | refl => exact second
  | step first less _ ih => exact .step first less (ih second)

theorem Advance.trans (first : Advance s s' ts rest) (second : Advance s' s'' us rest') :
    Advance s s'' (ts ++ us) rest' where
  reaches := first.reaches.trans second.reaches
  flowing := second.flowing
  done := by rw [second.done, first.done, List.reverse_append, List.append_assoc]
  at_ := second.at_

/-- A run goes on from what it reaches. -/
theorem run_of_reaches (reaches : Reaches s s') {fuel : Nat} (enough : s.cur.rest.length < fuel) :
    ∃ fuel', s'.cur.rest.length < fuel' ∧ run fuel s = run fuel' s' := by
  induction reaches generalizing fuel with
  | refl => exact ⟨fuel, enough, rfl⟩
  | step first less _ ih =>
    cases fuel with
    | zero => cases enough
    | succ fuel =>
      obtain ⟨fuel', left, same⟩ := ih (Nat.lt_of_lt_of_le less (Nat.le_of_lt_succ enough))
      exact ⟨fuel', left, by rw [run, first]; exact same⟩

theorem At.soft_append (soft : ∀ c ∈ gap, isSoft c) : s.At (gap ++ rest) ↔ s.At rest := by
  rw [At, At, List.dropWhile_append_of_pos soft]

theorem at_of_rest (here : s.cur.rest = rest) : s.At rest := by rw [At, here]

theorem At.exists_gap (at_ : s.At (c :: tail)) (hard : isSoft c = false) :
    ∃ gap, (∀ d ∈ gap, isSoft d) ∧ s.cur.rest = gap ++ c :: tail := by
  rw [At, List.dropWhile_cons_of_neg (by simp [hard])] at at_
  refine ⟨s.cur.rest.takeWhile isSoft, fun d => List.mem_takeWhile_imp, ?_⟩
  rw [← at_, List.takeWhile_append_dropWhile]

/-- The state behind a gap: keys that began too far back are given up. -/
def past (s : Scan) (gap : List Char) : Scan :=
  let s := { s with
    cur := s.cur.skip gap.length
    keyAllowed := s.keyAllowed || (gap.contains '\n' && !s.inFlow) }
  { s with keys := s.keys.filter fun k => !s.isStale k.2 }

theorem Flowing.past (free : s.Flowing) (gap : List Char) : (s.past gap).Flowing :=
  ⟨free.outer, free.indent, fun k hk => free.keys k (List.mem_filter.mp hk).1⟩

theorem Flowing.unwind (free : s.Flowing) (column : Int) : s.unwind column = s := by
  unfold Scan.unwind
  split
  · rfl
  · rw [free.outer, closeTo]
    cases s
    cases free.outer
    rfl

theorem Flowing.dropStale (free : s.Flowing) :
    s.dropStale = .ok { s with keys := s.keys.filter fun k => !s.isStale k.2 } := by
  unfold Scan.dropStale
  rw [if_neg]
  rw [List.any_eq_true]
  rintro ⟨k, hk, required⟩
  rw [free.keys k hk, Bool.and_false] at required
  cases required

/-- A step passes the gap and takes the token behind it. -/
theorem Flowing.step (free : s.Flowing) (soft : ∀ d ∈ gap, isSoft d) (settled : Settled (c :: tail))
    (solid : c ≠ endOfText) (here : s.cur.rest = gap ++ c :: tail) :
    s.step = (do return .inl (← (s.past gap).token)) := by
  have moved : (s.cur.skip gap.length).rest = c :: tail := Cursor.rest_skip_append here
  have toNext := toNext_eq soft settled here
  have dropped : s.toNext.dropStale = .ok (s.past gap) := by
    rw [toNext]
    exact Flowing.dropStale ⟨free.outer, free.indent, free.keys⟩
  unfold Scan.step
  rw [dropped]
  dsimp only [bind, Except.bind]
  rw [(free.past gap).unwind, show (s.past gap).cur.head = c from Cursor.head_eq moved,
    if_neg solid]

theorem Flowing.forgetKey (free : s.Flowing) :
    s.forgetKey = .ok { s with keys := s.keys.filter fun k => k.1 ≠ s.level } := by
  unfold Scan.forgetKey
  rw [if_neg]
  rw [List.any_eq_true]
  rintro ⟨k, hk, required⟩
  rw [free.keys k hk, Bool.and_false] at required
  cases required

/-- The place of a key that begins here. -/
def place (s : Scan) : KeyPlace := ⟨s.done.length, false, s.cur.index, s.cur.line, s.cur.column⟩

theorem Flowing.noteKey_of_allowed (free : s.Flowing) (allowed : s.keyAllowed = true) :
    s.noteKey = .ok { s with
      keys := (s.level, s.place) :: s.keys.filter fun k => k.1 ≠ s.level } := by
  have optional : (!s.inFlow && decide (s.indent = s.column)) = false := by
    have : s.indent ≠ s.column := by
      rw [free.indent, column]
      omega
    simp [this]
  unfold Scan.noteKey
  rw [if_pos allowed, free.forgetKey]
  refine congrArg Except.ok ?_
  simp only [place, Scan.mk.injEq, List.cons.injEq, Prod.mk.injEq, KeyPlace.mk.injEq, true_and,
    and_true]
  exact optional

/-- Noting a key changes nothing but the keys. -/
theorem Flowing.noteKey (free : s.Flowing) :
    ∃ keys, s.noteKey = .ok { s with keys := keys } ∧ ∀ k ∈ keys, k.2.required = false := by
  by_cases allowed : s.keyAllowed = true
  · refine ⟨_, free.noteKey_of_allowed allowed, ?_⟩
    intro k hk
    rcases List.mem_cons.mp hk with rfl | hk
    · rfl
    · exact free.keys k (List.mem_filter.mp hk).1
  · exact ⟨s.keys, by rw [Scan.noteKey, if_neg allowed], free.keys⟩

/-- A state that has passed the gap in front of the next token. -/
structure Ready (s p : Scan) (cs : List Char) : Prop where
  step : s.step = (do return .inl (← p.token))
  flowing : p.Flowing
  level : p.level = s.level
  done : p.done = s.done
  allowed : s.keyAllowed = true → p.keyAllowed = true
  rest : p.cur.rest = cs
  less : cs.length ≤ s.cur.rest.length

theorem Flowing.ready (free : s.Flowing) (at_ : s.At (c :: tail)) (hard : isSoft c = false)
    (settled : Settled (c :: tail)) (solid : c ≠ endOfText) : ∃ p, Ready s p (c :: tail) := by
  obtain ⟨gap, soft, here⟩ := at_.exists_gap hard
  exact ⟨s.past gap, {
    step := free.step soft settled solid here
    flowing := free.past gap
    level := rfl
    done := rfl
    allowed := fun allowed => by simp [Scan.past, allowed]
    rest := Cursor.rest_skip_append here
    less := by rw [here, List.length_append]; omega }⟩

theorem Ready.advance {p next : Scan} (ready : Ready s p (c :: tail)) (token : p.token = .ok next)
    (flowing : next.Flowing) (done : next.done = ts.reverse ++ p.done)
    (less : next.cur.rest.length ≤ tail.length) (at_ : next.At rest) : Advance s next ts rest where
  reaches := by
    have step : s.step = .ok (.inl next) := by
      rw [ready.step, token]
      rfl
    exact .step step (Nat.lt_of_le_of_lt less ready.less) (.refl next)
  flowing := flowing
  done := by rw [done, ready.done]
  at_ := at_

/-- The marks of flow collections, of which the colon is none. -/
theorem Flowing.ready_mark (free : s.Flowing) (at_ : s.At (c :: tail)) (mark : isFlowMark c) :
    ∃ p, Ready s p (c :: tail) := by
  refine free.ready at_ ?_ (settled_of_isFlowMark mark) ?_
  · rcases isFlowMark_cases mark with rfl | rfl | rfl | rfl | rfl <;> rfl
  · rcases isFlowMark_cases mark with rfl | rfl | rfl | rfl | rfl <;> decide

/-- A mark opens a collection. -/
theorem advance_start {t : Token} (free : s.Flowing) (at_ : s.At (c :: tail)) (mark : isFlowMark c)
    (token : ∀ p : Scan, p.cur.rest = c :: tail → p.token = p.flowStart t) :
    ∃ s', Advance s s' [t] tail ∧ s'.level = s.level + 1 ∧ s'.keyAllowed = true := by
  obtain ⟨p, ready⟩ := free.ready_mark at_ mark
  obtain ⟨keys, hkeys, optional⟩ := ready.flowing.noteKey
  have moved : (p.cur.skip 1).rest = tail := by rw [Cursor.rest_skip, ready.rest]; rfl
  have read : p.token = .ok { ({ p with keys := keys } : Scan).emitMark t 1 with
      level := p.level + 1, keyAllowed := true } := by
    rw [token p ready.rest, flowStart, hkeys]
    rfl
  refine ⟨_, ready.advance read ⟨ready.flowing.outer, ready.flowing.indent, optional⟩ rfl ?_
    (at_of_rest moved), ?_, rfl⟩
  · exact le_of_eq (congrArg List.length moved)
  · exact congrArg (· + 1) ready.level

/-- A mark closes a collection. -/
theorem advance_end {t : Token} (free : s.Flowing) (at_ : s.At (c :: tail)) (mark : isFlowMark c)
    (token : ∀ p : Scan, p.cur.rest = c :: tail → p.token = p.flowEnd t) :
    ∃ s', Advance s s' [t] tail ∧ s'.level = s.level - 1 := by
  obtain ⟨p, ready⟩ := free.ready_mark at_ mark
  have moved : (p.cur.skip 1).rest = tail := by rw [Cursor.rest_skip, ready.rest]; rfl
  have read : p.token = .ok { ({ p with
      keys := p.keys.filter fun k => k.1 ≠ p.level } : Scan).emitMark t 1 with
      level := p.level - 1, keyAllowed := false } := by
    rw [token p ready.rest, flowEnd, ready.flowing.forgetKey]
    rfl
  refine ⟨_, ready.advance read ⟨ready.flowing.outer, ready.flowing.indent, ?_⟩ rfl ?_
    (at_of_rest moved), ?_⟩
  · exact fun k hk => ready.flowing.keys k (List.mem_filter.mp hk).1
  · exact le_of_eq (congrArg List.length moved)
  · exact congrArg (· - 1) ready.level

/-- A comma parts two entries of a collection. -/
theorem advance_entry (free : s.Flowing) (at_ : s.At (',' :: tail)) :
    ∃ s', Advance s s' [.flowEntry] tail ∧ s'.level = s.level ∧ s'.keyAllowed = true := by
  obtain ⟨p, ready⟩ := free.ready_mark at_ rfl
  have moved : (p.cur.skip 1).rest = tail := by rw [Cursor.rest_skip, ready.rest]; rfl
  have read : p.token = .ok { ({ p with
      keys := p.keys.filter fun k => k.1 ≠ p.level } : Scan).emitMark .flowEntry 1 with
      keyAllowed := true } := by
    have token : p.token = p.flowEntry := by
      unfold Scan.token
      simp [Cursor.head_eq ready.rest, Cursor.atMarks, Cursor.peek, ready.rest]
    rw [token, flowEntry, ready.flowing.forgetKey]
    rfl
  refine ⟨_, ready.advance read ⟨ready.flowing.outer, ready.flowing.indent, ?_⟩ rfl ?_
    (at_of_rest moved), ready.level, rfl⟩
  · exact fun k hk => ready.flowing.keys k (List.mem_filter.mp hk).1
  · exact le_of_eq (congrArg List.length moved)

theorem token_quote {p : Scan} (here : p.cur.rest = '"' :: tail) :
    p.token = p.leaf (quotedScalar true) fun text => .scalar text false := by
  unfold Scan.token
  simp [Cursor.head_eq here, Cursor.atMarks, Cursor.peek, here]

/-- The start of a word: a letter or a digit, behind a sign or not. -/
inductive WordStart : List Char → Prop
  | plain {c : Char} {rest : List Char} (alphanumeric : c.isAlphanum) : WordStart (c :: rest)
  | minus {c : Char} {rest : List Char} (alphanumeric : c.isAlphanum) : WordStart ('-' :: c :: rest)

/-- The characters that are marks or blanks where a token begins. -/
def marks : List Char :=
  ['%', '-', '.', '[', ']', '\x7b', '\x7d', ',', '?', ':', '*', '&', '!', '|', '>', '\'', '"', '#',
    '@', '\u0060', ' ', '\t', '\n', '\r', '\u0085', '\u2028', '\u2029', endOfText]

theorem notMem_marks {c : Char} (alphanumeric : c.isAlphanum) : c ∉ marks := by
  have none : ∀ d ∈ marks, d.isAlphanum = false := by simp [marks]; decide
  intro h
  rw [none c h] at alphanumeric
  cases alphanumeric

theorem isBlankOrEnd_eq_false {c : Char} (other : c ∉ marks) : isBlankOrEnd c = false := by
  simp only [marks, List.mem_cons, List.not_mem_nil, or_false, not_or] at other
  simp [isBlankOrEnd, isSpaceOrEnd, isBreakOrEnd, isBreak, other]

theorem token_word {p : Scan} {cs : List Char} (start : WordStart cs) (here : p.cur.rest = cs) :
    p.token = p.plain := by
  cases start with
  | @plain c rest alphanumeric =>
    have other := notMem_marks alphanumeric
    have solid := isBlankOrEnd_eq_false other
    have head : p.cur.head = c := Cursor.head_eq here
    have first : p.cur.peek 0 = c := by rw [Cursor.peek, here]; rfl
    simp only [marks, List.mem_cons, List.not_mem_nil, or_false, not_or] at other
    have atPlain : p.atPlain = true := by simp [Scan.atPlain, head, solid, other]
    unfold Scan.token
    simp [head, Cursor.atMarks, first, other, atPlain]
  | @minus c rest alphanumeric =>
    have other := notMem_marks alphanumeric
    have solid := isBlankOrEnd_eq_false other
    have head : p.cur.head = '-' := Cursor.head_eq here
    have first : p.cur.peek 0 = '-' := by rw [Cursor.peek, here]; rfl
    have second : p.cur.peek 1 = c := by rw [Cursor.peek, here]; rfl
    simp only [marks, List.mem_cons, List.not_mem_nil, or_false, not_or] at other
    have atPlain : p.atPlain = true := by simp [Scan.atPlain, head, second, solid]
    unfold Scan.token
    simp [head, Cursor.atMarks, first, second, other, solid, atPlain]

theorem WordStart.head {cs : List Char} (start : WordStart cs) :
    ∃ c rest, cs = c :: rest ∧ (c = '-' ∨ c ∉ marks) ∧ c ≠ '\uFEFF' := by
  cases start with
  | plain alphanumeric =>
    refine ⟨_, _, rfl, Or.inr (notMem_marks alphanumeric), ?_⟩
    rintro rfl
    cases alphanumeric
  | minus => exact ⟨_, _, rfl, Or.inl rfl, by decide⟩

/-- A word with the gap behind it. -/
theorem advance_word {w : List Char} {m : Char} (free : s.Flowing) (inside : s.level ≠ 0)
    (start : WordStart (w ++ (gap ++ m :: tail))) (some : w ≠ []) (inert : ∀ c ∈ w, isInert c)
    (soft : ∀ c ∈ gap, isSoft c) (mark : isFlowMark m) (at_ : s.At (w ++ (gap ++ m :: tail))) :
    ∃ s', Advance s s' [.scalar (.ofChars w) true] (m :: tail) ∧ s'.level = s.level := by
  obtain ⟨c, rest, split, hc, no_mark⟩ := start.head
  have begins : isSoft c = false ∧ c ≠ endOfText ∧ c ≠ ' ' ∧ isBreak c = false ∧ c ≠ '#' := by
    rcases hc with rfl | other
    · decide
    · simp only [marks, List.mem_cons, List.not_mem_nil, or_false, not_or] at other
      simp [isSoft, isBreak, other]
  obtain ⟨soft_c, solid, blank, break_, comment⟩ := begins
  rw [split] at at_ start
  obtain ⟨p, ready⟩ := free.ready at_ soft_c (settled_cons rest ⟨blank, break_, comment, no_mark⟩) solid
  obtain ⟨keys, hkeys, optional⟩ := ready.flowing.noteKey
  have here : p.cur.rest = w ++ (gap ++ m :: tail) := ready.rest.trans split.symm
  have flow : ({ p with keys := keys } : Scan).inFlow = true := by
    simpa [inFlow, ready.level] using inside
  obtain ⟨crossed, scalar⟩ := plainScalar_eq (p.indent + 1) some inert soft mark here
  have moved : (p.cur.skip (w ++ gap).length).rest = m :: tail :=
    Cursor.rest_skip_append (by rw [here, List.append_assoc])
  have read : p.token = .ok { ({ p with keys := keys } : Scan).emit
      (.scalar (.ofChars w) true) with
      cur := p.cur.skip (w ++ gap).length, keyAllowed := crossed } := by
    rw [token_word start ready.rest, Scan.plain, hkeys]
    dsimp only [bind, Except.bind]
    rw [flow, scalar]
    rfl
  refine ⟨_, ready.advance read ⟨ready.flowing.outer, ready.flowing.indent, optional⟩ rfl ?_
    (at_of_rest moved), ready.level⟩
  have whole := congrArg List.length split
  have := List.length_pos_iff.mpr some
  change (p.cur.skip (w ++ gap).length).rest.length ≤ rest.length
  rw [moved]
  simp only [List.length_append, List.length_cons] at whole ⊢
  omega

theorem advance_quoted {ps : List Piece} (free : s.Flowing) (inside : Inside ps)
    (at_ : s.At (quotedText ps ++ rest)) :
    ∃ s', Advance s s' [quotedToken ps] rest ∧ s'.level = s.level := by
  obtain ⟨p, ready⟩ := free.ready at_ rfl (settled_cons _ (by decide)) (by decide)
  obtain ⟨keys, hkeys, optional⟩ := ready.flowing.noteKey
  have moved : (p.cur.skip (quotedText ps).length).rest = rest := Cursor.rest_skip_append ready.rest
  have read : p.token = .ok { ({ p with keys := keys } : Scan).emit (quotedToken ps) with
      cur := p.cur.skip (quotedText ps).length, keyAllowed := false } := by
    rw [token_quote ready.rest, leaf, hkeys]
    dsimp only [bind, Except.bind]
    rw [quotedScalar_eq inside ready.rest]
    rfl
  refine ⟨_, ready.advance read ⟨ready.flowing.outer, ready.flowing.indent, optional⟩ rfl ?_
    (at_of_rest moved), ready.level⟩
  change (p.cur.skip (quotedText ps).length).rest.length ≤ _
  rw [moved]
  exact (List.suffix_append _ rest).length_le

theorem soft_of_portable {gap : List Char} (space : ∀ c ∈ gap, Json.isSpace c)
    (portable : ∀ c ∈ gap, isPortable c) : ∀ c ∈ gap, isSoft c := by
  intro c hc
  have h := portable c hc
  simp only [isPortable, Bool.and_eq_true, decide_eq_true_eq] at h
  have := space c hc
  simp only [Json.isSpace, Bool.or_eq_true, decide_eq_true_eq] at this
  rcases this with ((rfl | rfl) | rfl) | rfl
  · rfl
  · exact absurd rfl h.1.2
  · rfl
  · exact absurd h.2 (by decide)

theorem inside_of_portable {ps : List Piece}
    (portable : ∀ c ∈ quotedText ps, isPortable c) : Inside ps := by
  intro c hc
  have h := portable c (by simp [quotedText, hc])
  simp only [isPortable, Bool.and_eq_true, Bool.or_eq_true, Bool.not_eq_true',
    decide_eq_true_eq] at h
  refine h.2.resolve_right ?_
  rintro rfl
  exact newline_notMem_pieces ps hc

theorem token_colon {p : Scan} (here : p.cur.rest = ':' :: tail) (flow : p.inFlow = true) :
    p.token = p.valueMark := by
  unfold Scan.token
  simp [Cursor.head_eq here, Cursor.atMarks, Cursor.peek, here, markCounts, flow]

/-- The colon behind the only token of a key. -/
theorem valueMark_eq {p : Scan} {k : KeyPlace} {t : Token} {before : List Token}
    (known : p.keys.lookup p.level = some k) (done : p.done = t :: before)
    (number : k.number = before.length) (flow : p.inFlow = true) :
    p.valueMark = .ok { p with
      cur := p.cur.skip 1
      done := .value :: t :: .key :: before
      keys := p.keys.filter fun k => k.1 ≠ p.level
      keyAllowed := false } := by
  have flow' : p.level ≠ 0 := by simpa [inFlow] using flow
  unfold Scan.valueMark
  rw [known]
  simp [Scan.insert, done, number, deepens, inFlow, flow', emitMark, emit]

/-- A key of this level began on this line, `length` characters back. -/
structure Keyed (s : Scan) (k : KeyPlace) (length : Nat) : Prop where
  known : s.keys.lookup s.level = some k
  line : k.line = s.cur.line
  index : s.cur.index = k.index + length

/-- A string in front of which a key may begin. -/
theorem advance_key {ps : List Piece} (free : s.Flowing) (allowed : s.keyAllowed = true)
    (inside : Inside ps) (line : ∀ c ∈ quotedText ps, isBreak c = false)
    (at_ : s.At (quotedText ps ++ rest)) :
    ∃ s' k, Advance s s' [quotedToken ps] rest ∧ s'.level = s.level ∧ s'.cur.rest = rest ∧
      Keyed s' k (quotedText ps).length ∧ k.number = s.done.length := by
  obtain ⟨p, ready⟩ := free.ready at_ rfl (settled_cons _ (by decide)) (by decide)
  have here : p.cur.rest = quotedText ps ++ rest := ready.rest
  have moved : (p.cur.skip (quotedText ps).length).rest = rest := Cursor.rest_skip_append here
  have read : p.token = .ok ({ p with
      cur := p.cur.skip (quotedText ps).length
      done := quotedToken ps :: p.done
      keys := (p.level, p.place) :: p.keys.filter fun k => k.1 ≠ p.level
      keyAllowed := false } : Scan) := by
    rw [token_quote ready.rest, leaf, ready.flowing.noteKey_of_allowed (ready.allowed allowed)]
    dsimp only [bind, Except.bind]
    rw [quotedScalar_eq inside here]
    rfl
  refine ⟨_, p.place, ready.advance read ⟨ready.flowing.outer, ready.flowing.indent, ?_⟩ rfl ?_
    (at_of_rest moved), ready.level, moved, ⟨?_, ?_, ?_⟩, congrArg List.length ready.done⟩
  · intro k hk
    rcases List.mem_cons.mp hk with rfl | hk
    · rfl
    · exact ready.flowing.keys k (List.mem_filter.mp hk).1
  · change (p.cur.skip (quotedText ps).length).rest.length ≤ _
    rw [moved]
    exact (List.suffix_append _ rest).length_le
  · simp
  · exact (Cursor.line_skip here line).symm
  · refine Cursor.index_skip ?_
    rw [here, List.length_append]
    exact Nat.le_add_right _ _

theorem lookup_filter {α β : Type} [BEq α] [LawfulBEq α] {p : α × β → Bool} {es : List (α × β)}
    {a : α} {b : β} (known : es.lookup a = some b) (kept : p (a, b)) :
    (es.filter p).lookup a = some b := by
  induction es with
  | nil => cases known
  | cons e es ih =>
    obtain ⟨x, y⟩ := e
    rw [List.lookup_cons] at known
    by_cases same : a = x
    · subst same
      simp only [beq_self_eq_true, Option.some.injEq] at known
      subst known
      simp [kept]
    · have other : (a == x) = false := by simpa using same
      rw [other] at known
      rw [List.filter_cons]
      split
      · rw [List.lookup_cons, other]
        exact ih known
      · exact ih known

/-- The colon of a key that has not been given up. -/
theorem advance_colon {k : KeyPlace} {length : Nat} {t : Token} {before : List Token}
    (free : s.Flowing) (inside : s.level ≠ 0) (keyed : Keyed s k length)
    (done : s.done = t :: before) (number : k.number = before.length)
    (soft : ∀ c ∈ gap, isSoft c) (line : '\n' ∉ gap) (near : length + gap.length ≤ 1024)
    (here : s.cur.rest = gap ++ ':' :: tail) :
    ∃ s', Reaches s s' ∧ s'.Flowing ∧ s'.done = .value :: t :: .key :: before ∧ s'.At tail ∧
      s'.level = s.level := by
  have spaces : ∀ c ∈ gap, isBreak c = false := by
    intro c hc
    rcases Bool.or_eq_true_iff.mp (soft c hc) with h | h
    · rw [of_decide_eq_true h]
      rfl
    · exact absurd (of_decide_eq_true h ▸ hc) line
  have enough : gap.length ≤ s.cur.rest.length := by
    rw [here, List.length_append]
    exact Nat.le_add_right _ _
  have index := Cursor.index_skip enough
  have known : (s.past gap).keys.lookup s.level = some k := by
    refine lookup_filter keyed.known ?_
    have far : ¬1024 < (s.cur.skip gap.length).index - k.index := by
      rw [index, keyed.index]
      omega
    simp [isStale, keyed.line, Cursor.line_skip here spaces, far]
  have moved : (s.past gap).cur.rest = ':' :: tail := Cursor.rest_skip_append here
  have flow : (s.past gap).inFlow = true := by simpa [inFlow, Scan.past] using inside
  have step := free.step soft (settled_cons _ (by decide)) (by decide) here
  rw [token_colon moved flow, valueMark_eq (p := s.past gap) known done number flow] at step
  have left : ((s.past gap).cur.skip 1).rest = tail := by rw [Cursor.rest_skip, moved]; rfl
  refine ⟨_, .step step ?_ (.refl _), ⟨free.outer, free.indent, ?_⟩, rfl, at_of_rest left, rfl⟩
  · change ((s.past gap).cur.skip 1).rest.length < _
    rw [left, here]
    simp
    omega
  · exact fun k hk => (free.past gap).keys k (List.mem_filter.mp hk).1

/-- A name that is near to its colon is a key. -/
theorem advance_name {n : Json.Name} (free : s.Flowing) (inside : s.level ≠ 0)
    (allowed : s.keyAllowed = true) (near : n.Near) (portable : ∀ c ∈ n.text, isPortable c)
    (at_ : s.At (n.text ++ rest)) :
    ∃ s', Advance s s' n.tokens rest ∧ s'.level = s.level := by
  have soft (g : Json.Gap) (part : ∀ c ∈ g.chars, c ∈ n.text) : ∀ c ∈ g.chars, isSoft c :=
    soft_of_portable g.space fun c hc => portable c (part c hc)
  have pieces : Inside n.pieces := inside_of_portable fun c hc =>
    portable c (by simp [Json.Name.text, hc])
  have line : ∀ c ∈ quotedText n.pieces, isBreak c = false := by
    simp only [quotedText, List.mem_cons, List.mem_append, List.not_mem_nil, or_false]
    rintro c (rfl | hc | rfl)
    · rfl
    · exact pieces c hc
    · rfl
  have start : s.At (quotedText n.pieces ++
      (n.beforeColon.chars ++ ':' :: (n.behindColon.chars ++ rest))) := by
    refine (At.soft_append (soft n.before fun c hc => by simp [Json.Name.text, hc])).mp ?_
    simpa [Json.Name.text] using at_
  obtain ⟨s₁, k, first, level₁, here, keyed, number⟩ :=
    advance_key free allowed pieces line start
  obtain ⟨s₂, second, free₂, done₂, at₂, level₂⟩ :=
    advance_colon first.flowing (level₁ ▸ inside) keyed first.done number
      (soft n.beforeColon fun c hc => by simp [Json.Name.text, hc]) near.line
      (by simpa using near.length) here
  refine ⟨s₂, ⟨first.reaches.trans second, free₂, done₂, ?_⟩, level₂.trans level₁⟩
  exact (At.soft_append (soft n.behindColon fun c hc => by simp [Json.Name.text, hc])).mp at₂

theorem inert_word (w : Json.Word) : ∀ c ∈ w.text, isInert c := by
  cases w with
  | named name v known =>
    have all : Json.words.all fun w => w.1.toList.all isInert := by decide
    exact List.all_eq_true.mp (List.all_eq_true.mp all _ known)
  | number n =>
    have all : Json.numberChars.all isInert := by decide
    exact fun c hc => List.all_eq_true.mp all c (n.chars c hc)

theorem wordStart_word (w : Json.Word) (rest : List Char) : WordStart (w.text ++ rest) := by
  cases w with
  | named name v known =>
    simp only [Json.words, List.mem_cons, Prod.mk.injEq, List.not_mem_nil, or_false] at known
    rcases known with ⟨rfl, -⟩ | ⟨rfl, -⟩ | ⟨rfl, -⟩ | ⟨rfl, -⟩ | ⟨rfl, -⟩ | ⟨rfl, -⟩
    case inr.inr.inr.inr.inr => exact .minus (c := 'I') rfl
    all_goals exact .plain rfl
  | number n =>
    obtain ⟨d, more, whole⟩ := List.exists_cons_of_ne_nil n.isWhole.ne_nil
    have digit : d.isAlphanum := by
      simp [Char.isAlphanum, n.isWhole.digits d (whole ▸ List.mem_cons_self)]
    simp only [Json.Word.text, Json.Numeral.text, Json.Numeral.magnitudeText, whole]
    split
    · exact .minus digit
    · exact .plain digit

theorem word_ne_nil (w : Json.Word) : w.text ≠ [] := by
  intro h
  have start := wordStart_word w []
  rw [h] at start
  cases start

theorem advance_empty {first last : Char} {t u : Token} (free : s.Flowing) (inner : Json.Gap)
    (portable : ∀ c ∈ inner.chars, isPortable c) (opens : isFlowMark first) (closes : isFlowMark last)
    (start : ∀ (tail : List Char) (p : Scan), p.cur.rest = first :: tail → p.token = p.flowStart t)
    (end_ : ∀ (tail : List Char) (p : Scan), p.cur.rest = last :: tail → p.token = p.flowEnd u)
    (at_ : s.At (first :: (inner.chars ++ last :: rest))) :
    ∃ s', Advance s s' [t, u] rest ∧ s'.level = s.level := by
  obtain ⟨s₁, first, level₁, -⟩ := advance_start free at_ opens (start _)
  have at₁ := (At.soft_append (soft_of_portable inner.space portable)).mp first.at_
  obtain ⟨s₂, last, level₂⟩ := advance_end first.flowing at₁ closes (end_ _)
  exact ⟨s₂, first.trans last, by rw [level₂, level₁]; rfl⟩

theorem token_openList {p : Scan} (here : p.cur.rest = '[' :: tail) :
    p.token = p.flowStart .flowSequenceStart := by
  unfold Scan.token
  simp [Cursor.head_eq here, Cursor.atMarks, Cursor.peek, here]

theorem token_closeList {p : Scan} (here : p.cur.rest = ']' :: tail) :
    p.token = p.flowEnd .flowSequenceEnd := by
  unfold Scan.token
  simp [Cursor.head_eq here, Cursor.atMarks, Cursor.peek, here]

theorem token_openMap {p : Scan} (here : p.cur.rest = '\x7b' :: tail) :
    p.token = p.flowStart .flowMappingStart := by
  unfold Scan.token
  simp [Cursor.head_eq here, Cursor.atMarks, Cursor.peek, here]

theorem token_closeMap {p : Scan} (here : p.cur.rest = '\x7d' :: tail) :
    p.token = p.flowEnd .flowMappingEnd := by
  unfold Scan.token
  simp [Cursor.head_eq here, Cursor.atMarks, Cursor.peek, here]

/-- A text that starts with a mark of flow collections, up to a gap. -/
def InFront (cs : List Char) : Prop :=
  ∃ gap m tail, cs = gap ++ m :: tail ∧ (∀ c ∈ gap, isSoft c) ∧ isFlowMark m

mutual

/-- A value; a word has to stand in a flow collection and in front of one of its marks. -/
theorem advance_spelling (sp : Json.Spelling) {s : Scan} {tail : List Char} (free : s.Flowing)
    (near : ∀ n ∈ sp.names, n.Near) (portable : ∀ c ∈ sp.text, isPortable c)
    (ends : sp.isWord → s.level ≠ 0 ∧ InFront tail) (at_ : s.At (sp.text ++ tail)) :
    ∃ s', Advance s s' sp.tokens tail ∧ s'.level = s.level := by
  cases sp with
  | word w =>
    obtain ⟨inside, gap, m, more, rfl, soft, mark⟩ := ends rfl
    obtain ⟨s', advance, level⟩ := advance_word free inside (wordStart_word w _) (word_ne_nil w)
      (inert_word w) soft mark at_
    exact ⟨s', { advance with at_ := (At.soft_append soft).mpr advance.at_ }, level⟩
  | quoted pieces => exact advance_quoted free (inside_of_portable portable) at_
  | emptyList inner =>
    exact advance_empty free inner (fun c hc => portable c (by simp [Json.Spelling.text, hc])) rfl
      rfl (fun _ _ => token_openList) (fun _ _ => token_closeList)
      (by simpa [Json.Spelling.text] using at_)
  | list items =>
    obtain ⟨s₁, first, level₁, -⟩ := advance_start free at_ rfl fun _ => token_openList
    obtain ⟨s₂, rest, level₂⟩ := advance_items items first.flowing (by omega) near
      (fun c hc => portable c (List.mem_cons_of_mem _ hc)) first.at_
    exact ⟨s₂, first.trans rest, by omega⟩
  | emptyMap inner =>
    exact advance_empty free inner (fun c hc => portable c (by simp [Json.Spelling.text, hc])) rfl
      rfl (fun _ _ => token_openMap) (fun _ _ => token_closeMap)
      (by simpa [Json.Spelling.text] using at_)
  | map members =>
    obtain ⟨s₁, first, level₁, allowed⟩ := advance_start free at_ rfl fun _ => token_openMap
    obtain ⟨s₂, rest, level₂⟩ := advance_members members first.flowing (by omega) allowed near
      (fun c hc => portable c (List.mem_cons_of_mem _ hc)) first.at_
    exact ⟨s₂, first.trans rest, by omega⟩

/-- The items of a list and the bracket that closes it. -/
theorem advance_items (items : Json.Items) {s : Scan} {tail : List Char}
    (free : s.Flowing) (inside : s.level ≠ 0) (near : ∀ n ∈ items.names, n.Near)
    (portable : ∀ c ∈ items.text, isPortable c) (at_ : s.At (items.text ++ tail)) :
    ∃ s', Advance s s' items.tokens tail ∧ s'.level + 1 = s.level := by
  cases items with
  | last before item behind =>
    simp only [Json.Items.text, List.mem_append, List.append_assoc] at portable at_
    have soft₁ := soft_of_portable before.space fun c hc => portable c (Or.inl hc)
    have soft₂ := soft_of_portable behind.space fun c hc =>
      portable c (Or.inr (Or.inr (Or.inl hc)))
    obtain ⟨s₁, first, level₁⟩ := advance_spelling item free near
      (fun c hc => portable c (Or.inr (Or.inl hc)))
      (fun _ => ⟨inside, behind.chars, ']', tail, rfl, soft₂, rfl⟩) ((At.soft_append soft₁).mp at_)
    obtain ⟨s₂, last, level₂⟩ := advance_end first.flowing ((At.soft_append soft₂).mp first.at_) rfl
      fun _ => token_closeList
    exact ⟨s₂, first.trans last, by omega⟩
  | more before item behind rest =>
    simp only [Json.Items.text, Json.Items.names, List.mem_append, List.mem_cons, List.append_assoc,
      List.cons_append] at portable at_ near
    have soft₁ := soft_of_portable before.space fun c hc => portable c (Or.inl hc)
    have soft₂ := soft_of_portable behind.space fun c hc =>
      portable c (Or.inr (Or.inr (Or.inl hc)))
    obtain ⟨s₁, first, level₁⟩ := advance_spelling item free (fun n hn => near n (Or.inl hn))
      (fun c hc => portable c (Or.inr (Or.inl hc)))
      (fun _ => ⟨inside, behind.chars, ',', _, rfl, soft₂, rfl⟩) ((At.soft_append soft₁).mp at_)
    obtain ⟨s₂, comma, level₂, -⟩ :=
      advance_entry first.flowing ((At.soft_append soft₂).mp first.at_)
    obtain ⟨s₃, last, level₃⟩ := advance_items rest comma.flowing (by omega)
      (fun n hn => near n (Or.inr hn))
      (fun c hc => portable c (Or.inr (Or.inr (Or.inr (Or.inr hc))))) comma.at_
    exact ⟨s₃, first.trans (comma.trans last), by omega⟩

/-- The members of a mapping and the brace that closes it. -/
theorem advance_members (members : Json.Members) {s : Scan} {tail : List Char}
    (free : s.Flowing) (inside : s.level ≠ 0) (allowed : s.keyAllowed = true)
    (near : ∀ n ∈ members.names, n.Near) (portable : ∀ c ∈ members.text, isPortable c)
    (at_ : s.At (members.text ++ tail)) :
    ∃ s', Advance s s' members.tokens tail ∧ s'.level + 1 = s.level := by
  cases members with
  | last name member behind =>
    simp only [Json.Members.text, Json.Members.names, List.mem_append, List.mem_cons,
      List.append_assoc] at portable at_ near
    have soft := soft_of_portable behind.space fun c hc =>
      portable c (Or.inr (Or.inr (Or.inl hc)))
    obtain ⟨s₁, key, level₁⟩ := advance_name free inside allowed (near name (Or.inl rfl))
      (fun c hc => portable c (Or.inl hc)) at_
    obtain ⟨s₂, value, level₂⟩ := advance_spelling member key.flowing
      (fun n hn => near n (Or.inr hn)) (fun c hc => portable c (Or.inr (Or.inl hc)))
      (fun _ => ⟨by omega, behind.chars, '\x7d', tail, rfl, soft, rfl⟩) key.at_
    obtain ⟨s₃, last, level₃⟩ := advance_end value.flowing ((At.soft_append soft).mp value.at_) rfl
      fun _ => token_closeMap
    exact ⟨s₃, key.trans (value.trans last), by omega⟩
  | more name member behind rest =>
    simp only [Json.Members.text, Json.Members.names, List.mem_append, List.mem_cons,
      List.append_assoc, List.cons_append] at portable at_ near
    have soft := soft_of_portable behind.space fun c hc =>
      portable c (Or.inr (Or.inr (Or.inl hc)))
    obtain ⟨s₁, key, level₁⟩ := advance_name free inside allowed (near name (Or.inl rfl))
      (fun c hc => portable c (Or.inl hc)) at_
    obtain ⟨s₂, value, level₂⟩ := advance_spelling member key.flowing
      (fun n hn => near n (Or.inr (Or.inl hn))) (fun c hc => portable c (Or.inr (Or.inl hc)))
      (fun _ => ⟨by omega, behind.chars, ',', _, rfl, soft, rfl⟩) key.at_
    obtain ⟨s₃, comma, level₃, allowed₃⟩ :=
      advance_entry value.flowing ((At.soft_append soft).mp value.at_)
    obtain ⟨s₄, last, level₄⟩ := advance_members rest comma.flowing (by omega) allowed₃
      (fun n hn => near n (Or.inr (Or.inr hn)))
      (fun c hc => portable c (Or.inr (Or.inr (Or.inr (Or.inr hc))))) comma.at_
    exact ⟨s₄, key.trans (value.trans (comma.trans last)), by omega⟩

end

/-- Behind the last token there is a gap and the end. -/
theorem Flowing.step_end (free : s.Flowing) (at_ : s.At []) :
    s.step = .ok (.inr (Token.streamEnd :: s.done).reverse) := by
  have soft : ∀ c ∈ s.cur.rest, isSoft c := List.dropWhile_eq_nil_iff.mp at_
  have here : s.cur.rest = s.cur.rest ++ [] := (List.append_nil _).symm
  have settled : Settled [] := nofun
  have toNext := toNext_eq soft settled here
  have dropped : s.toNext.dropStale = .ok (s.past s.cur.rest) := by
    rw [toNext]
    exact Flowing.dropStale ⟨free.outer, free.indent, free.keys⟩
  have moved : (s.past s.cur.rest).cur.rest = [] := Cursor.rest_skip_append here
  have ended : (s.past s.cur.rest).cur.head = endOfText := by rw [Cursor.head, moved]; rfl
  unfold Scan.step
  rw [dropped]
  dsimp only [bind, Except.bind]
  rw [(free.past _).unwind, ended, if_pos rfl, closeAll, (free.past _).unwind,
    (free.past _).forgetKey]
  rfl

theorem flowing_start (cs : List Char) : (start cs).Flowing := ⟨rfl, rfl, nofun⟩

end Scan

/-- The tokens of a text of JSON, except for one of a single word. -/
theorem tokens_eq {sp : Json.Spelling} {before behind : Json.Gap} (collection : sp.isWord = false)
    (near : ∀ n ∈ sp.names, n.Near)
    (portable : ∀ c ∈ before.chars ++ (sp.text ++ behind.chars), isPortable c) :
    tokens (before.chars ++ (sp.text ++ behind.chars)) = sp.tokens ++ [.streamEnd] := by
  obtain ⟨cs, hcs⟩ : ∃ cs, cs = before.chars ++ (sp.text ++ behind.chars) := ⟨_, rfl⟩
  rw [← hcs] at portable ⊢
  have allowed : cs.all isAllowed := by
    refine List.all_eq_true.mpr fun c hc => ?_
    have h := portable c hc
    simp only [isPortable, Bool.and_eq_true] at h
    exact h.1.1
  simp only [hcs, List.mem_append] at portable
  have soft₁ := Scan.soft_of_portable before.space fun c hc => portable c (Or.inl hc)
  have soft₂ := Scan.soft_of_portable behind.space fun c hc => portable c (Or.inr (Or.inr hc))
  obtain ⟨s, advance, -⟩ := Scan.advance_spelling sp (Scan.flowing_start cs) near
    (fun c hc => portable c (Or.inr (Or.inl hc))) (by simp [collection])
    ((Scan.At.soft_append soft₁).mp (Scan.at_of_rest hcs))
  have left : s.At (behind.chars ++ []) := by simpa using advance.at_
  have last := advance.flowing.step_end ((Scan.At.soft_append soft₂).mp left)
  obtain ⟨fuel, enough, same⟩ := Scan.run_of_reaches advance.reaches (Nat.lt_succ_self cs.length)
  rw [tokens, if_pos allowed]
  refine same.trans ?_
  cases fuel with
  | zero => cases enough
  | succ fuel =>
    rw [Scan.run, last, advance.done]
    simp [Scan.start]

end Yaml

end DesignTokens
