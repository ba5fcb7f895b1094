import DesignTokens.Proofs.Markup

/-!
# Markup that shows itself

A text without tags, without a backslash in front of a bracket and without the code of an emoji is
shown as it is, also between the tags of a style. A backslash at its end would make text of the tag
behind it.
-/

namespace DesignTokens.Console

open Text (isBlank)

/-- No tag is complete. -/
def Untagged (cs : List Letter) : Prop :=
  ∀ before inside after, cs = before ++ .char '[' :: (inside ++ .char ']' :: after) →
    .char '[' ∉ inside → ¬inside.head?.any startsTag

/-- No backslash stands in front of a bracket. -/
def Unescaped (cs : List Letter) : Prop :=
  ∀ before after, cs ≠ before ++ .char '\\' :: .char '[' :: after

/-- No pair of colons has the code of an emoji inside. -/
def Uncoded (cs : List Letter) : Prop :=
  ∀ before inside after, cs = before ++ .char ':' :: (inside ++ .char ':' :: after) →
    (∀ c ∈ inside, c ≠ .char ':' ∧ isBlank c = false) →
      emojiCode inside = .char ':' :: inside ++ [.char ':']

/-- Markup that shows itself. -/
structure Literal (cs : List Letter) : Prop where
  untagged : Untagged cs
  unescaped : Unescaped cs
  uncoded : Uncoded cs
  kept : ∀ c ∈ cs, isDropped c = false

/-- Plays no part in markup. -/
def isPlain (c : Letter) : Bool := c ≠ .char '[' && c ≠ .char '\\' && c ≠ .char ':' && !isDropped c

theorem Literal.nil : Literal [] where
  untagged _ _ _ same := by simp at same
  unescaped _ _ same := by simp at same
  uncoded _ _ _ same := by simp at same
  kept _ none := by cases none

theorem Untagged.cons {c : Letter} {cs : List Letter} (other : c ≠ .char '[')
    (untagged : Untagged cs) : Untagged (c :: cs) := by
  intro before inside after same
  cases before with
  | nil => exact absurd (List.cons.inj same).1 other
  | cons d before => exact untagged before inside after (List.cons.inj same).2

theorem Unescaped.cons {c : Letter} {cs : List Letter} (other : c ≠ .char '\\')
    (unescaped : Unescaped cs) : Unescaped (c :: cs) := by
  intro before after same
  cases before with
  | nil => exact absurd (List.cons.inj same).1 other
  | cons d before => exact unescaped before after (List.cons.inj same).2

/-- A colon in front makes no pair if a blank follows. -/
theorem Uncoded.cons {c : Letter} {cs : List Letter} (uncoded : Uncoded cs)
    (apart : c = .char ':' → ∀ d, cs.head? = some d → isBlank d) : Uncoded (c :: cs) := by
  intro before inside after same free
  cases before with
  | nil =>
    obtain ⟨colon, rfl⟩ := List.cons.inj same
    cases inside with
    | nil => exact absurd (apart colon (.char ':') rfl) (by decide)
    | cons d inside =>
      exact absurd (apart colon d rfl) (by simp [(free d List.mem_cons_self).2])
  | cons d before => exact uncoded before inside after (List.cons.inj same).2 free

theorem Literal.append_left {front cs : List Letter} (plain : front.all isPlain)
    (literal : Literal cs) : Literal (front ++ cs) := by
  induction front with
  | nil => exact literal
  | cons c front ih =>
    rw [List.all_cons, Bool.and_eq_true] at plain
    obtain ⟨first, more⟩ := plain
    simp only [isPlain, Bool.and_eq_true, Bool.not_eq_true', decide_eq_true_eq] at first
    have rest := ih more
    exact ⟨rest.untagged.cons first.1.1.1, rest.unescaped.cons first.1.1.2,
      rest.uncoded.cons fun colon => absurd colon first.1.2,
      List.forall_mem_cons.mpr ⟨first.2, rest.kept⟩⟩

theorem Literal.of_plain {cs : List Letter} (plain : cs.all isPlain) : Literal cs := by
  simpa using Literal.nil.append_left plain

/-- A heading that ends in a colon and a blank. -/
theorem Literal.headed {heading cs : List Letter} (plain : heading.all isPlain)
    (literal : Literal cs) : Literal (heading ++ .char ':' :: .char ' ' :: cs) := by
  have spaced : [.char ' '].all isPlain := by decide
  have behind : Literal (.char ' ' :: cs) := literal.append_left spaced
  have apart : ∀ d, (.char ' ' :: cs).head? = some d → isBlank d := by
    rintro d ⟨⟩
    decide
  exact Literal.append_left plain ⟨behind.untagged.cons (by decide),
    behind.unescaped.cons (by decide), behind.uncoded.cons fun _ => apart,
    List.forall_mem_cons.mpr ⟨by decide, behind.kept⟩⟩

theorem Untagged.of_cons {c : Letter} {cs : List Letter} (untagged : Untagged (c :: cs)) :
    Untagged cs := by
  rintro before inside after rfl
  exact untagged (c :: before) inside after rfl

theorem startsTag_of_tagInside? {cs inside rest : List Letter}
    (found : tagInside? cs = some (inside, rest)) : inside.head?.any startsTag := by
  cases cs with
  | nil => cases found
  | cons c more =>
    rw [tagInside?] at found
    split at found
    · rename_i starts
      dsimp only at found
      split at found
      · cases found
        simpa using starts
      · cases found
    · cases found

theorem startsTag_of_tagAhead? {cs inside rest : List Letter} {slashes : Nat}
    (ahead : tagAhead? cs = some (slashes, inside, rest)) : inside.head?.any startsTag := by
  rw [tagAhead?] at ahead
  split at ahead
  · obtain ⟨⟨inside', rest'⟩, found, same⟩ := Option.map_eq_some_iff.mp ahead
    cases same
    exact startsTag_of_tagInside? found
  · cases ahead

/-- What stands behind untagged text does not change how it is read: nothing, or a tag that is not
made text by a backslash at the end. -/
def Parts (cs ending : List Letter) : Prop :=
  ending = [] ∨ (ending.head? = some (.char '[') ∧ cs.getLast? ≠ some (.char '\\'))

theorem Parts.of_cons {c d : Letter} {cs ending : List Letter} (parts : Parts (c :: d :: cs) ending) :
    Parts (d :: cs) ending :=
  parts.imp_right fun ⟨opens, last⟩ => ⟨opens, by simpa using last⟩

/-- A tag that starts in text in front of an opening bracket ends in it. -/
theorem exists_of_tag_append {cs inside rest ending : List Letter} (free : .char '[' ∉ inside)
    (same : inside ++ .char ']' :: rest = cs ++ .char '[' :: ending) :
    ∃ after, cs = inside ++ .char ']' :: after := by
  rcases List.append_eq_append_iff.mp same with ⟨more, rfl, behind⟩ | ⟨more, rfl, behind⟩
  · cases more with
    | nil => simp at behind
    | cons d more =>
      obtain ⟨rfl, -⟩ := List.cons.inj behind
      exact ⟨more, rfl⟩
  · cases more with
    | nil => simp at behind
    | cons d more =>
      obtain ⟨rfl, -⟩ := List.cons.inj behind
      simp at free

/-- In front of a character of untagged text there is no tag. -/
theorem Untagged.tagAhead?_eq_none {c : Letter} {cs ending : List Letter}
    (untagged : Untagged (c :: cs)) (parts : Parts (c :: cs) ending) :
    tagAhead? (c :: cs ++ ending) = none := by
  cases ahead : tagAhead? (c :: cs ++ ending) with
  | none => rfl
  | some found =>
    exfalso
    obtain ⟨slashes, inside, rest⟩ := found
    obtain ⟨whole, free⟩ := of_tagAhead? ahead
    have starts := startsTag_of_tagAhead? ahead
    rcases parts with rfl | ⟨opens, last⟩
    · exact untagged _ inside rest (by simpa using whole) free starts
    · -- The text is no run of backslashes, so the tag starts in it.
      cases ending with
      | nil => cases opens
      | cons d ending =>
        cases opens
        have run (front : c :: cs <+: List.replicate slashes (.char '\\')) : False := by
          refine last ?_
          rw [List.getLast?_eq_some_getLast (List.cons_ne_nil c cs), Option.some_inj]
          exact List.eq_of_mem_replicate (front.subset (List.getLast_mem _))
        rcases List.append_eq_append_iff.mp whole with ⟨more, front, -⟩ | ⟨more, front, behind⟩
        · exact run ⟨more, front.symm⟩
        · cases more with
          | nil => exact run ⟨[], by simpa using front⟩
          | cons e more =>
            obtain ⟨rfl, tagged⟩ := List.cons.inj behind
            obtain ⟨after, rfl⟩ := exists_of_tag_append free tagged
            exact untagged _ inside after front free starts

/-- Untagged text is taken up as a whole. -/
theorem stretches_append {cs ending : List Letter} (untagged : Untagged cs)
    (parts : Parts cs ending) (fuel : Nat) (text : List Letter) (index : Nat) :
    stretches (fuel + cs.length) (cs ++ ending) text index =
      stretches fuel ending (cs.reverse ++ text) (index + cs.length) := by
  induction cs generalizing text index with
  | nil => rfl
  | cons c cs ih =>
    have shorter : Parts cs ending := by
      cases cs with
      | nil => exact parts.imp_right fun ⟨opens, _⟩ => ⟨opens, by simp⟩
      | cons d cs => exact parts.of_cons
    have step : stretches (fuel + cs.length + 1) (c :: cs ++ ending) text index =
        stretches (fuel + cs.length) (cs ++ ending) (c :: text) (index + 1) := by
      rw [stretches.eq_def]
      dsimp only
      rw [untagged.tagAhead?_eq_none parts]
      rfl
    rw [List.length_cons, ← Nat.add_assoc, step, ih untagged.of_cons shorter, List.reverse_cons,
      List.append_assoc, Nat.add_assoc, Nat.add_comm 1]
    rfl

theorem unescape_of_unescaped {cs : List Letter} (unescaped : Unescaped cs) : unescape cs = cs := by
  fun_induction unescape cs with
  | case1 => rfl
  | case2 rest _ => exact absurd rfl (unescaped [] rest)
  | case3 c rest _ ih =>
    rw [ih fun before after same => unescaped (c :: before) after (congrArg (c :: ·) same)]

theorem withEmoji_of_uncoded {cs : List Letter} (uncoded : Uncoded cs) (fuel : Nat) :
    withEmoji fuel cs = cs := by
  induction fuel generalizing cs with
  | zero => rw [withEmoji]
  | succ fuel ih =>
    cases cs with
    | nil => rfl
    | cons c cs =>
      have behind (before rest : List Letter) (same : c :: cs = before ++ rest) :
          withEmoji fuel rest = rest := by
        refine ih fun before' inside after found => ?_
        exact uncoded (before ++ before') inside after (by rw [same, found, List.append_assoc])
      rw [withEmoji]
      split
      · rename_i colon
        subst colon
        dsimp only
        split
        · rename_i more pair
          have whole := takeWhile_append_drop (fun c => c ≠ .char ':' && !isBlank c) cs
          have free : ∀ c ∈ cs.takeWhile (fun c => c ≠ .char ':' && !isBlank c),
              c ≠ .char ':' ∧ isBlank c = false := fun c hc => by simpa using List.mem_takeWhile_imp hc
          rw [pair] at whole
          generalize cs.takeWhile (fun c => c ≠ .char ':' && !isBlank c) = inside at whole free ⊢
          subst whole
          rw [uncoded [] inside more rfl free,
            behind (.char ':' :: inside ++ [.char ':']) more (by simp)]
          simp
        · rw [behind [.char ':'] cs rfl]
      · rw [behind [c] cs rfl]

theorem shownText_of_literal {cs : List Letter} (literal : Literal cs) : shownText cs = cs := by
  rw [shownText, unescape_of_unescaped literal.unescaped]
  exact withEmoji_of_uncoded literal.uncoded _

variable {terminal : Terminal}

theorem shown_flush (text : List Letter) (rest : List Stretch) (opened : List OpenTag) :
    shown terminal (stretches.flush text ++ rest) opened =
      (shown terminal rest opened).map (shownText text.reverse ++ ·) := by
  unfold stretches.flush
  split
  · rename_i none
    rw [List.isEmpty_iff.mp none, List.nil_append]
    cases shown terminal rest opened <;> rfl
  · rw [List.singleton_append, shown]
    cases shown terminal rest opened <;> rfl

theorem filter_of_literal {cs : List Letter} (literal : Literal cs) :
    (cs.filter fun c => !isDropped c) = cs :=
  List.filter_eq_self.mpr fun c hc => by simp [literal.kept c hc]

/-- A literal is shown as it is. -/
theorem render_of_literal {cs : List Letter} (literal : Literal cs) :
    render terminal cs = .ok cs := by
  have whole : stretches (1 + cs.length) (cs ++ []) [] 0 = stretches.flush cs.reverse ++ [] := by
    rw [stretches_append literal.untagged (Or.inl rfl), List.append_nil, List.append_nil]
    rfl
  rw [List.append_nil, Nat.add_comm] at whole
  rw [render, whole, shown_flush, List.reverse_reverse, shownText_of_literal literal]
  change Except.ok ((cs ++ []).filter fun c => !isDropped c) = _
  rw [List.append_nil, filter_of_literal literal]

/-- A literal is shown as it is in a style of its own, unless a backslash makes text of the end of
the style. -/
theorem render_of_literal_dim {cs : List Letter} (literal : Literal cs)
    (last : cs.getLast? ≠ some (.char '\\')) :
    render terminal (.char '\n' :: ("[dim]" : Text).toList ++ (cs ++ ("[/dim]" : Text).toList)) =
      .ok (.char '\n' :: cs) := by
  have long : (.char '\n' :: ("[dim]" : Text).toList ++
      (cs ++ ("[/dim]" : Text).toList)).length + 1 = 11 + cs.length + 2 := by
    simp
    omega
  have inner : stretches (11 + cs.length) (cs ++ ("[/dim]" : Text).toList) [] 6 =
      stretches.flush cs.reverse ++ [.tag ("/dim" : Text).toList (6 + cs.length)] := by
    rw [stretches_append literal.untagged (Or.inr ⟨rfl, last⟩), List.append_nil]
    exact List.append_nil _
  obtain ⟨opened', closes⟩ := applyTag_of_closing_dim
    (List.mem_singleton_self (OpenTag.ofInside ("dim" : Text).toList)) (by decide)
  have closed : shown terminal [.tag ("/dim" : Text).toList (6 + cs.length)]
      [.ofInside ("dim" : Text).toList] = .ok [] := by
    rw [shown, closes]
    rfl
  have opened : applyTag terminal [] ("dim" : Text).toList 1 =
      .ok [.ofInside ("dim" : Text).toList] :=
    applyTag_of_opening (by decide) 1
  rw [render, long, stretches_dim, inner, shown, shown, opened]
  change (do
    let cs ← (do return shownText [.char '\n'] ++ (← shown terminal (stretches.flush cs.reverse ++
      [.tag ("/dim" : Text).toList (6 + cs.length)]) [.ofInside ("dim" : Text).toList]))
    return cs.filter fun c => !isDropped c : Except MarkupError (List Letter)) = _
  rw [shown_flush, closed, List.reverse_reverse, shownText_of_literal literal]
  change Except.ok (.char '\n' :: (cs ++ []).filter fun c => !isDropped c) = _
  rw [List.append_nil, filter_of_literal literal]

end DesignTokens.Console
