import DesignTokens.Console.Markup
import Mathlib.Data.List.Basic
import Mathlib.Data.List.TakeWhile

/-!
# Markup that is accepted

Only closing tags can make markup fail. A text in which none of them is complete can always be shown,
also between the tags of a style.
-/

namespace DesignTokens.Console

/-- No closing tag is complete. -/
def Unclosed (cs : List Letter) : Prop :=
  ∀ before after, cs = before ++ .char '[' :: .char '/' :: after → .char ']' ∉ after

namespace Unclosed

theorem of_notMem {cs : List Letter} (free : .char '[' ∉ cs) : Unclosed cs := by
  rintro before after rfl
  simp at free

theorem suffix (cs : List Letter) {ds : List Letter} (unclosed : Unclosed (cs ++ ds)) :
    Unclosed ds := by
  rintro before after rfl
  exact unclosed (cs ++ before) after (List.append_assoc ..).symm

theorem append_left {cs ds : List Letter} (free : .char '[' ∉ cs) (unclosed : Unclosed ds) :
    Unclosed (cs ++ ds) := by
  intro before after whole
  rcases List.append_eq_append_iff.mp whole with ⟨more, rfl, inside⟩ | ⟨more, rfl, inside⟩
  · exact unclosed more after inside
  · cases more with
    | nil => exact unclosed [] after inside.symm
    | cons c more =>
      obtain ⟨rfl, -⟩ := List.cons.inj inside
      simp at free

theorem append_right {cs ds : List Letter} (unclosed : Unclosed cs) (free : .char ']' ∉ ds) :
    Unclosed (cs ++ ds) := by
  intro before after whole
  rcases List.append_eq_append_iff.mp whole with ⟨more, -, rfl⟩ | ⟨more, rfl, inside⟩
  · simp_all
  · -- The bracket opens in the first text; the slash may be the start of the second one.
    cases more with
    | nil =>
      cases inside
      simp_all
    | cons c more =>
      cases more with
      | nil =>
        cases inside
        simp_all
      | cons d more =>
        cases inside
        have front := unclosed before more rfl
        simp_all

end Unclosed

variable {terminal : Terminal}

def Accepted (terminal : Terminal) (stretches : List Stretch) (opened : List OpenTag) : Prop :=
  ∃ cs, shown terminal stretches opened = .ok cs

theorem render_accepts_iff {markup : List Letter} :
    (∃ cs, render terminal markup = .ok cs) ↔
      Accepted terminal (stretches (markup.length + 1) markup [] 0) [] := by
  rw [render, Accepted]
  cases shown terminal (stretches (markup.length + 1) markup [] 0) [] with
  | ok cs => exact ⟨fun _ => ⟨cs, rfl⟩, fun _ => ⟨_, rfl⟩⟩
  | error e => exact ⟨fun ⟨_, shown⟩ => (nomatch shown), fun ⟨_, shown⟩ => (nomatch shown)⟩

namespace Accepted

theorem nil (opened : List OpenTag) : Accepted terminal [] opened := ⟨[], rfl⟩

theorem text {rest : List Stretch} {opened : List OpenTag} (cs : List Letter)
    (accepted : Accepted terminal rest opened) : Accepted terminal (.text cs :: rest) opened := by
  obtain ⟨shown_, hs⟩ := accepted
  exact ⟨shownText cs ++ shown_, by rw [shown, hs]; rfl⟩

theorem tag {rest : List Stretch} {opened opened' : List OpenTag} {inside : List Letter} {index : Nat}
    (applied : applyTag terminal opened inside index = .ok opened') (accepted : Accepted terminal rest opened') :
    Accepted terminal (.tag inside index :: rest) opened := by
  obtain ⟨cs, hs⟩ := accepted
  exact ⟨cs, by rw [shown, applied]; exact hs⟩

theorem flush {rest : List Stretch} {opened : List OpenTag} (text : List Letter)
    (accepted : Accepted terminal rest opened) : Accepted terminal (stretches.flush text ++ rest) opened := by
  unfold stretches.flush
  split
  · exact accepted
  · exact accepted.text _

/-- A tag in markup is applied, or it is text behind a backslash. -/
theorem tagStretches {rest : List Stretch} {opened opened' : List OpenTag} {slashes : Nat}
    {inside : List Letter} {index : Nat}
    (applied : ∀ index, applyTag terminal opened inside index = .ok opened')
    (escaped : Accepted terminal rest opened) (accepted : Accepted terminal rest opened') :
    Accepted terminal (tagStretches slashes inside index ++ rest) opened := by
  have last : Accepted terminal ([if slashes % 2 = 1 then
      Stretch.text (.char '[' :: inside ++ [.char ']']) else .tag inside (index + slashes)] ++ rest)
      opened := by
    split
    · exact escaped.text _
    · exact Accepted.tag (applied _) accepted
  rw [Console.tagStretches, List.append_assoc]
  split
  · exact last
  · exact last.text _

end Accepted

theorem drop_takeWhile {α : Type} (p : α → Bool) (cs : List α) :
    cs.drop (cs.takeWhile p).length = cs.dropWhile p := by
  have whole : cs.takeWhile p ++ cs.dropWhile p = cs := List.takeWhile_append_dropWhile
  exact (congrArg (List.drop _) whole.symm).trans List.drop_left

theorem takeWhile_append_drop {α : Type} (p : α → Bool) (cs : List α) :
    cs.takeWhile p ++ cs.drop (cs.takeWhile p).length = cs := by
  rw [drop_takeWhile, List.takeWhile_append_dropWhile]

theorem of_tagInside? {cs inside rest : List Letter}
    (found : tagInside? cs = some (inside, rest)) :
    cs = inside ++ .char ']' :: rest ∧ .char '[' ∉ inside := by
  cases cs with
  | nil => cases found
  | cons c more =>
    rw [tagInside?] at found
    split at found
    · rename_i starts
      dsimp only at found
      split at found
      · rename_i behind
        cases found
        have whole := takeWhile_append_drop (fun c => c ≠ .char '[' && c ≠ .char ']') more
        rw [behind] at whole
        refine ⟨congrArg (c :: ·) whole.symm, fun opens => ?_⟩
        rcases List.mem_cons.mp opens with rfl | later
        · exact absurd starts (by decide)
        · simpa using List.mem_takeWhile_imp later
      · cases found
    · cases found

/-- A tag ahead stands between brackets, behind its backslashes, and no bracket opens in it. -/
theorem of_tagAhead? {cs inside rest : List Letter} {slashes : Nat}
    (ahead : tagAhead? cs = some (slashes, inside, rest)) :
    cs = List.replicate slashes (.char '\\') ++ .char '[' :: (inside ++ .char ']' :: rest) ∧
      .char '[' ∉ inside := by
  rw [tagAhead?] at ahead
  split at ahead
  · rename_i more behind
    obtain ⟨⟨inside', rest'⟩, found, same⟩ := Option.map_eq_some_iff.mp ahead
    cases same
    obtain ⟨rfl, free⟩ := of_tagInside? found
    have front : cs.takeWhile (· = .char '\\') = List.replicate (cs.takeWhile (· = .char '\\')).length
        (.char '\\') :=
      List.eq_replicate_of_mem fun c hc => by simpa using List.mem_takeWhile_imp hc
    have whole := takeWhile_append_drop (· = Letter.char '\\') cs
    rw [behind] at whole
    rw [← front]
    exact ⟨whole.symm, free⟩
  · cases ahead

theorem applyTag_of_opening {opened : List OpenTag} {inside : List Letter}
    (opening : inside.head? ≠ some (.char '/')) (index : Nat) :
    applyTag terminal opened inside index = .ok (.ofInside inside :: opened) := by
  unfold applyTag
  split
  · rename_i name closing
    cases inside with
    | nil => cases closing
    | cons c more =>
      rw [tagName, List.takeWhile_cons] at closing
      split at closing
      · cases closing
        simp at opening
      · cases closing
  · rfl

/-- The end of a style that is open by its name, which is no handler's. -/
theorem applyTag_of_closing (name : Text)
    (style : Style.normal (Text.stripped Text.isBlank name.toList) = name)
    (tag : tagName (.char '/' :: name.toList) = .char '/' :: name.toList)
    (word : (Text.stripped Text.isBlank name.toList).isEmpty = false)
    (plain : name.toList.head? ≠ some (.char '@'))
    {opened : List OpenTag} {t : OpenTag} (open_ : t ∈ opened) (named : t.name = name) :
    ∃ opened', ∀ index, applyTag terminal opened (.char '/' :: name.toList) index = .ok opened' := by
  have found : ∃ u, (opened.find? fun u => u.name = name) = some u := by
    rw [← Option.isSome_iff_exists, List.find?_isSome]
    exact ⟨t, open_, by simpa using named⟩
  obtain ⟨u, hu⟩ := found
  have harmless : u.fault? terminal = none := by
    have name : u.name = name := by simpa using List.find?_some hu
    simp [OpenTag.fault?, name, plain]
  refine ⟨opened.erase u, fun index => ?_⟩
  simp only [applyTag, tag, word, Bool.false_eq_true, if_false, style, hu, closeTag, harmless]

theorem applyTag_of_closing_dim {opened : List OpenTag} {t : OpenTag} (open_ : t ∈ opened)
    (named : t.name = "dim") :
    ∃ opened', ∀ index, applyTag terminal opened ("/dim" : Text).toList index = .ok opened' :=
  applyTag_of_closing "dim" (by decide) (by decide) (by decide) (by decide) open_ named

/-- What may stand behind unclosed markup: nothing, or the end of a style that is open. -/
def Ends (opened : List OpenTag) (ending : List Letter) : Prop :=
  ending = [] ∨ (ending = ("[/dim]" : Text).toList ∧ ∃ t ∈ opened, t.name = "dim")

theorem Ends.cons {opened : List OpenTag} {ending : List Letter} (ends : Ends opened ending)
    (t : OpenTag) : Ends (t :: opened) ending :=
  ends.imp_right fun ⟨same, u, hu, named⟩ => ⟨same, u, List.mem_cons_of_mem t hu, named⟩

/-- The first tag stands in the unclosed markup and opens something, or it is the ending. -/
theorem Unclosed.tag_cases {cs : List Letter} (unclosed : Unclosed cs) {opened : List OpenTag}
    {ending : List Letter} (ends : Ends opened ending) {slashes : Nat} {inside rest : List Letter}
    (ahead : tagAhead? (cs ++ ending) = some (slashes, inside, rest)) :
    (inside.head? ≠ some (.char '/') ∧ ∃ more, rest = more ++ ending ∧ Unclosed more) ∨
      (inside = ("/dim" : Text).toList ∧ rest = [] ∧ ending = ("[/dim]" : Text).toList) := by
  obtain ⟨whole, free⟩ := of_tagAhead? ahead
  have opens (more : List Letter)
      (front : cs = List.replicate slashes (.char '\\') ++ .char '[' :: (inside ++ .char ']' :: more)) :
      inside.head? ≠ some (.char '/') ∧ Unclosed more := by
    subst front
    constructor
    · intro closing
      cases inside with
      | nil => cases closing
      | cons c inside =>
        cases closing
        have after := unclosed (List.replicate slashes (.char '\\')) (inside ++ .char ']' :: more)
          (by simp)
        simp at after
    · refine Unclosed.suffix
        (List.replicate slashes (.char '\\') ++ .char '[' :: (inside ++ [.char ']'])) ?_
      simpa using unclosed
  have split : cs ++ ending =
      (List.replicate slashes (.char '\\') ++ .char '[' :: (inside ++ [.char ']'])) ++ rest := by
    rw [whole]
    simp
  rcases List.append_eq_append_iff.mp split with ⟨more, inner, ended⟩ | ⟨more, rfl, rfl⟩
  · rcases List.eq_nil_or_concat more with rfl | ⟨front, last, rfl⟩
    · obtain ⟨opening, unclosed'⟩ := opens [] (by simpa using inner.symm)
      exact Or.inl ⟨opening, [], by simpa using ended.symm, fun _ _ h => by simp at h⟩
    · -- The tag ends in the ending, so it is the ending.
      rcases ends with rfl | ⟨rfl, -⟩
      · simp at ended
      · have closed : (List.replicate slashes (.char '\\') ++ .char '[' :: inside) ++ [.char ']'] =
            (cs ++ front) ++ [last] := by simpa using inner
        obtain ⟨tagged, same⟩ := List.append_inj' closed rfl
        cases same
        have whole : ("[/dim" : Text).toList ++ .char ']' :: [] = front ++ .char ']' :: rest := by
          simpa using ended
        obtain ⟨rfl, -, rfl⟩ := (List.append_cons_inj_of_notMem (by decide) (by simp)).mp whole
        have named : List.replicate slashes (.char '\\') ++ .char '[' :: inside =
            cs ++ .char '[' :: ("/dim" : Text).toList := tagged
        have plain : Letter.char '[' ∉ List.replicate slashes (.char '\\') := by
          simp [List.mem_replicate]
        obtain ⟨-, -, rfl⟩ := (List.append_cons_inj_of_notMem plain free).mp named
        exact Or.inr ⟨rfl, rfl, rfl⟩
  · obtain ⟨opening, unclosed'⟩ := opens more (by simp)
    exact Or.inl ⟨opening, more, rfl, unclosed'⟩

/-- Unclosed markup can be shown whatever is open, also with the end of a style behind it. -/
theorem accepted_stretches {cs : List Letter} (unclosed : Unclosed cs) {opened : List OpenTag}
    {ending : List Letter} (ends : Ends opened ending) (fuel : Nat) (text : List Letter) (index : Nat) :
    Accepted terminal (stretches fuel (cs ++ ending) text index) opened := by
  have nothing (fuel index : Nat) (opened : List OpenTag) :
      Accepted terminal (stretches fuel [] [] index) opened := by
    cases fuel <;> exact Accepted.nil opened
  have alone (text : List Letter) (opened : List OpenTag) :
      Accepted terminal (stretches.flush text) opened := by
    simpa using (Accepted.nil opened).flush text
  induction fuel generalizing cs opened text index with
  | zero => exact alone text opened
  | succ fuel ih =>
    unfold stretches
    cases ahead : tagAhead? (cs ++ ending) with
    | some found =>
      obtain ⟨slashes, inside, rest⟩ := found
      dsimp only
      rw [List.append_assoc]
      refine Accepted.flush text ?_
      rcases unclosed.tag_cases ends ahead with ⟨opening, more, rfl, unclosed'⟩ | ⟨rfl, rfl, rfl⟩
      · exact Accepted.tagStretches (applyTag_of_opening opening) (ih unclosed' ends ..)
          (ih unclosed' (ends.cons _) ..)
      · obtain ⟨t, open_, named⟩ := (ends.resolve_left (by decide)).2
        obtain ⟨opened', closes⟩ := applyTag_of_closing_dim open_ named
        exact Accepted.tagStretches closes (nothing ..) (nothing ..)
    | none =>
      dsimp only
      cases cs with
      | nil =>
        rcases ends with rfl | ⟨rfl, -⟩
        · exact alone text opened
        · exact absurd ahead (by decide)
      | cons c more =>
        exact ih (Unclosed.suffix [c] unclosed) ends _ _

/-- Unclosed markup can be shown. -/
theorem render_of_unclosed {markup : List Letter} (unclosed : Unclosed markup) :
    ∃ cs, render terminal markup = .ok cs := by
  rw [render_accepts_iff]
  have accepted : Accepted terminal (stretches (markup.length + 1) (markup ++ []) [] 0) [] :=
    accepted_stretches unclosed (Or.inl rfl) ..
  rwa [List.append_nil] at accepted

/-- A line end and the start of a style stand in front of what is read on its own. -/
theorem stretches_dim (fuel : Nat) (cs : List Letter) :
    stretches (fuel + 2) (.char '\n' :: ("[dim]" : Text).toList ++ cs) [] 0 =
      .text [.char '\n'] :: .tag ("dim" : Text).toList 1 :: stretches fuel cs [] 6 :=
  rfl

/-- Unclosed markup can be shown in a style of its own, also with plain text in front. -/
theorem render_of_unclosed_dim {markup : List Letter} (unclosed : Unclosed markup) :
    ∃ cs, render terminal (.char '\n' :: ("[dim]" : Text).toList ++
      (markup ++ ("[/dim]" : Text).toList)) = .ok cs := by
  rw [render_accepts_iff]
  have ends : Ends [OpenTag.ofInside ("dim" : Text).toList] ("[/dim]" : Text).toList :=
    Or.inr ⟨rfl, _, List.mem_singleton_self _, by decide⟩
  have inner (fuel index : Nat) : Accepted terminal
      (stretches fuel (markup ++ ("[/dim]" : Text).toList) [] index)
      [.ofInside ("dim" : Text).toList] :=
    accepted_stretches unclosed ends ..
  have long : (.char '\n' :: ("[dim]" : Text).toList ++
      (markup ++ ("[/dim]" : Text).toList)).length + 1 = markup.length + 11 + 2 := by simp
  rw [long, stretches_dim]
  exact ((inner ..).tag rfl).text _

end DesignTokens.Console
