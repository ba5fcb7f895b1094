import DesignTokens.Yaml.Token
import Mathlib.Data.List.Infix
import Mathlib.Data.List.TakeWhile

/-!
# Moving through a YAML text

A cursor that is moved has the rest of its text in front, knows how many characters it has passed,
and stays on its line as long as it passes no line end. Blanks between tokens are passed as a whole.
-/

namespace DesignTokens.Yaml

namespace Cursor

variable {cur : Cursor} {c : Char} {rest : List Char}

theorem rest_next (cur : Cursor) : cur.next.rest = cur.rest.tail := by
  unfold next
  split
  · simp_all
  · split
    · simp_all
    · split <;> simp_all

theorem index_next (here : cur.rest = c :: rest) : cur.next.index = cur.index + 1 := by
  unfold next
  rw [here]
  dsimp only
  split
  · rfl
  · split <;> rfl

theorem line_next (here : cur.rest = c :: rest) (inside : isBreak c = false) :
    cur.next.line = cur.line := by
  unfold next
  rw [here]
  simp only [inside, Bool.false_and, Bool.false_eq_true, if_false]
  split <;> rfl

theorem head_eq (here : cur.rest = c :: rest) : cur.head = c := by
  rw [head, here]
  rfl

theorem skip_add (cur : Cursor) (m n : Nat) : (cur.skip m).skip n = cur.skip (m + n) := by
  induction m generalizing cur with
  | zero => rw [Nat.zero_add, skip]
  | succ m ih => rw [Nat.succ_add, skip, skip, ih]

theorem skip_next_skip (cur : Cursor) (before behind : List Char) (c : Char) :
    (cur.skip before.length).next.skip behind.length =
      cur.skip (before ++ c :: behind).length := by
  rw [List.length_append, ← skip_add]
  rfl

theorem rest_skip (cur : Cursor) (n : Nat) : (cur.skip n).rest = cur.rest.drop n := by
  induction n generalizing cur with
  | zero => rfl
  | succ n ih => rw [skip, ih, rest_next, List.drop_tail]

theorem rest_skip_append {run : List Char} (here : cur.rest = run ++ rest) :
    (cur.skip run.length).rest = rest := by
  rw [rest_skip, here, List.drop_left]

theorem index_skip {n : Nat} (enough : n ≤ cur.rest.length) : (cur.skip n).index = cur.index + n := by
  induction n generalizing cur with
  | zero => rfl
  | succ n ih =>
    obtain ⟨c, rest, here⟩ := List.exists_cons_of_length_pos (Nat.zero_lt_of_lt enough)
    have left : n ≤ cur.next.rest.length := by
      rw [rest_next, List.length_tail]
      omega
    rw [skip, ih left, index_next here]
    omega

/-- Characters that end no line leave the line as it is. -/
theorem line_skip {run : List Char} (here : cur.rest = run ++ rest)
    (inside : ∀ c ∈ run, isBreak c = false) : (cur.skip run.length).line = cur.line := by
  induction run generalizing cur with
  | nil => rfl
  | cons c run ih =>
    obtain ⟨first, inside⟩ := List.forall_mem_cons.mp inside
    have next : cur.next.rest = run ++ rest := by rw [rest_next, here]; rfl
    rw [List.length_cons, skip, ih next inside, line_next here first]

theorem span_eq {p : Char → Bool} {run : List Char} (here : cur.rest = run ++ rest)
    (all : ∀ c ∈ run, p c) (ends : ∀ c ∈ rest.head?, p c = false) :
    cur.span p = (run, cur.skip run.length) := by
  have taken : cur.rest.takeWhile p = run := by
    rw [here, List.takeWhile_append_of_pos all]
    cases rest with
    | nil => simp
    | cons c rest => simp [ends c rfl]
  rw [span, taken]

/-- What is no line break has none to skip. -/
theorem lineBreak_none (inside : ∀ c ∈ cur.rest.head?, isBreak c = false) :
    cur.lineBreak = (none, cur) := by
  unfold lineBreak
  split
  · rename_i here
    rw [here] at inside
    cases inside '\r' rfl
  · rename_i c rest _ here
    rw [here] at inside
    have plain := inside c rfl
    have separator : ¬(c = '\u2028' || c = '\u2029') = true := by
      intro h
      simp [isBreak] at plain h
      tauto
    rw [if_neg separator, plain, if_neg Bool.false_ne_true]
  · rfl

theorem lineBreak_newline (here : cur.rest = '\n' :: rest) :
    cur.lineBreak = (some '\n', cur.next) := by
  unfold lineBreak
  rw [here]
  rfl

end Cursor

/-- A blank between tokens, of which a tab is none. -/
def isSoft (c : Char) : Bool := c = ' ' || c = '\n'

/-- A text that a token begins or that has come to its end. -/
def Settled (cs : List Char) : Prop :=
  ∀ c ∈ cs.head?, c ≠ ' ' ∧ isBreak c = false ∧ c ≠ '#' ∧ c ≠ '\uFEFF'

theorem settled_cons {c : Char} (rest : List Char)
    (begins : c ≠ ' ' ∧ isBreak c = false ∧ c ≠ '#' ∧ c ≠ '\uFEFF') : Settled (c :: rest) := by
  intro d hd
  cases hd
  exact begins

theorem Settled.isSpace {cs : List Char} (settled : Settled cs) :
    ∀ c ∈ cs.head?, isSpace c = false := by
  intro c hc
  simpa [Yaml.isSpace] using (settled c hc).1

theorem Settled.skipComment {cur : Cursor} (settled : Settled cur.rest) : cur.skipComment = cur := by
  unfold Cursor.skipComment
  rw [if_neg]
  unfold Cursor.head
  cases here : cur.rest with
  | nil => decide
  | cons c rest =>
    rw [here] at settled
    exact (settled c rfl).2.2.1

/-- A gap is spaces up to a line end or up to its own end. -/
theorem exists_line_of_soft {gap : List Char} (soft : ∀ c ∈ gap, isSoft c) :
    ∃ spaces more, gap = spaces ++ more ∧ (∀ c ∈ spaces, isSpace c) ∧
      (more = [] ∨ ∃ next, more = '\n' :: next) := by
  induction gap with
  | nil => exact ⟨[], [], rfl, by simp, Or.inl rfl⟩
  | cons c gap ih =>
    obtain ⟨first, soft⟩ := List.forall_mem_cons.mp soft
    rcases Bool.or_eq_true_iff.mp first with h | h
    · obtain ⟨spaces, more, rfl, space, ends⟩ := ih soft
      exact ⟨c :: spaces, more, rfl, List.forall_mem_cons.mpr ⟨h, space⟩, ends⟩
    · exact ⟨[], c :: gap, rfl, by simp, Or.inr ⟨gap, by simpa using h⟩⟩

namespace Scan

/-- A gap is passed as a whole; outside flow collections a line end in it allows a key. -/
theorem skipBlanks_eq {fuel : Nat} {s : Scan} {gap rest : List Char} (soft : ∀ c ∈ gap, isSoft c)
    (settled : Settled rest) (here : s.cur.rest = gap ++ rest) (enough : gap.length < fuel) :
    skipBlanks fuel s = { s with
      cur := s.cur.skip gap.length
      keyAllowed := s.keyAllowed || (gap.contains '\n' && !s.inFlow) } := by
  induction fuel generalizing s gap with
  | zero => cases enough
  | succ fuel ih =>
    obtain ⟨spaces, more, rfl, space, ends⟩ := exists_line_of_soft soft
    rw [List.append_assoc] at here
    have behind : (s.cur.skip spaces.length).rest = more ++ rest := Cursor.rest_skip_append here
    have no_newline : spaces.contains '\n' = false := by
      simpa using fun h => absurd (space _ h) (by decide)
    unfold skipBlanks Cursor.skipWhile
    rcases ends with rfl | ⟨next, rfl⟩
    · rw [List.append_nil] at *
      rw [List.nil_append] at here behind
      have still : (s.cur.skip spaces.length).skipComment = s.cur.skip spaces.length :=
        Settled.skipComment (behind.symm ▸ settled)
      rw [Cursor.span_eq here space settled.isSpace, still]
      dsimp only
      rw [Cursor.lineBreak_none fun c hc => (settled c (behind ▸ hc)).2.1]
      rw [no_newline]
      simp
    · have comment : (s.cur.skip spaces.length).skipComment = s.cur.skip spaces.length := by
        unfold Cursor.skipComment
        rw [Cursor.head_eq behind, if_neg (by decide)]
      rw [Cursor.span_eq here space (by simp [Yaml.isSpace]), comment]
      dsimp only
      rw [Cursor.lineBreak_newline behind]
      dsimp only
      have moved : ((s.cur.skip spaces.length).next).rest = next ++ rest := by
        rw [Cursor.rest_next, behind]
        rfl
      have less : next.length < fuel := by
        simp at enough
        omega
      have newline : (spaces ++ '\n' :: next).contains '\n' = true := by simp
      rw [ih (fun c hc => soft c (by simp [hc])) moved less]
      dsimp only
      rw [Cursor.skip_next_skip _ _ _ '\n', newline]
      cases hflow : s.inFlow <;> simp_all [inFlow]

theorem toNext_eq {s : Scan} {gap rest : List Char} (soft : ∀ c ∈ gap, isSoft c)
    (settled : Settled rest) (here : s.cur.rest = gap ++ rest) :
    s.toNext = { s with
      cur := s.cur.skip gap.length
      keyAllowed := s.keyAllowed || (gap.contains '\n' && !s.inFlow) } := by
  have no_mark : ¬(s.cur.index = 0 && s.cur.head = '\uFEFF') = true := by
    rw [Bool.and_eq_true, decide_eq_true_eq, decide_eq_true_eq]
    rintro ⟨-, mark⟩
    unfold Cursor.head at mark
    rw [here] at mark
    cases gap with
    | nil =>
      cases rest with
      | nil => cases mark
      | cons c rest => exact (settled c rfl).2.2.2 mark
    | cons c gap =>
      cases mark
      cases soft _ List.mem_cons_self
  unfold toNext
  rw [if_neg no_mark]
  refine skipBlanks_eq soft settled here ?_
  rw [here, List.length_append]
  omega

end Scan

end DesignTokens.Yaml
