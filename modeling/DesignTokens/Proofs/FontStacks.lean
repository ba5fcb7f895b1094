import DesignTokens.Flatten
import Mathlib.Data.List.Forall2

/-!
# Font stacks are read back

A font stack is taken apart where a comma and a space stand outside of double quotes. What comes out
are the names it was made of, in their order, and those with a blank in them still have their
quotes.
-/

namespace DesignTokens

/-- The pieces of a text between the separators that stand outside of double quotes; `quoted` says
that the text starts within quotes. A separator is a comma and a space. -/
def unquotedPieces : Bool → List Letter → List (List Letter)
  | _, [] => [[]]
  | false, .char ',' :: .char ' ' :: rest => [] :: unquotedPieces false rest
  | quoted, c :: rest =>
    match unquotedPieces (quoted ^^ (c = '"')) rest with
    | [] => [[c]]
    | piece :: more => (c :: piece) :: more

/-- The parts of a font stack. -/
def stackParts (stack : Text) : List Text :=
  (unquotedPieces false stack.toList).map Text.ofList

/-- A name stands in a font stack in double quotes if there is a blank in it, and else as it is. -/
def StandsAs (name part : Text) : Prop :=
  ((∃ c ∈ name.toList, Text.isBlank c) → part = "\"" ++ name ++ "\"") ∧
    ((∀ c ∈ name.toList, ¬ Text.isBlank c) → part = name)

/-- A part without its quotes. -/
def unquoted (part : Text) : Text := Text.ofList (part.toList.filter (· ≠ .char '"'))

section
variable {c : Letter} {cs rest piece : List Letter} {more : List (List Letter)}

/-- A character that starts no separator belongs to the first piece. -/
theorem unquotedPieces_cons {quoted : Bool}
    (inside : quoted = false → c = ',' → rest.head? ≠ some (.char ' '))
    (behind : unquotedPieces (quoted ^^ (c = '"')) rest = piece :: more) :
    unquotedPieces quoted (c :: rest) = (c :: piece) :: more := by
  rw [unquotedPieces.eq_3, behind]
  rintro tail hq hc rfl
  exact inside hq hc rfl

/-- Between quotes nothing is taken apart. -/
theorem unquotedPieces_quoted (plain : .char '"' ∉ cs)
    (behind : unquotedPieces false rest = piece :: more) :
    unquotedPieces true (cs ++ .char '"' :: rest) = (cs ++ .char '"' :: piece) :: more := by
  induction cs with
  | nil => exact unquotedPieces_cons (by simp) behind
  | cons c cs ih =>
    rw [List.mem_cons, not_or] at plain
    have stays : (true ^^ decide (c = '"')) = true := by simp [Ne.symm plain.1]
    exact unquotedPieces_cons (by simp) (by rw [stays]; exact ih plain.2)

/-- Neither is a text without blanks, unless one follows it. -/
theorem unquotedPieces_bare (plain : .char '"' ∉ cs) (dense : .char ' ' ∉ cs)
    (apart : rest.head? ≠ some (.char ' '))
    (behind : unquotedPieces false rest = piece :: more) :
    unquotedPieces false (cs ++ rest) = (cs ++ piece) :: more := by
  induction cs with
  | nil => exact behind
  | cons c cs ih =>
    rw [List.mem_cons, not_or] at plain dense
    have stays : (false ^^ decide (c = '"')) = false := by simp [Ne.symm plain.1]
    refine unquotedPieces_cons (fun _ _ => ?_) (by rw [stays]; exact ih plain.2 dense.2)
    cases cs with
    | nil => exact apart
    | cons d ds => simpa using fun h => dense.2 (by simp [h])

end

variable {name part : Text} {names : List Text}

theorem isBlank_space : Text.isBlank ' ' = true := by decide

theorem standsAs_fontName (name : Text) : StandsAs name (fontName name) := by
  rw [fontName]
  constructor
  · intro blank
    rw [if_pos (by simpa using blank)]
  · intro dense
    rw [if_neg (by simpa using dense)]

/-- A part of a stack stays in one piece. -/
theorem unquotedPieces_part (plain : .char '"' ∉ name.toList) (stands : StandsAs name part)
    {rest piece : List Letter} {more : List (List Letter)} (apart : rest.head? ≠ some (.char ' '))
    (behind : unquotedPieces false rest = piece :: more) :
    unquotedPieces false (part.toList ++ rest) = (part.toList ++ piece) :: more := by
  by_cases blank : ∃ c ∈ name.toList, Text.isBlank c
  · rw [stands.1 blank]
    have inner := unquotedPieces_quoted plain behind
    have opens (_ : false = false) (comma : Letter.char '"' = ',') :
        (name.toList ++ .char '"' :: rest).head? ≠ some (.char ' ') := absurd comma (by decide)
    simpa using unquotedPieces_cons opens inner
  · have dense : ∀ c ∈ name.toList, ¬ Text.isBlank c := fun c hc hb => blank ⟨c, hc, hb⟩
    rw [stands.2 dense]
    exact unquotedPieces_bare plain (fun space => dense _ space isBlank_space) apart behind

/-- Where a part ends, a separator follows or the stack ends, so the pieces are the parts. -/
theorem stackParts_intercalate (named : names ≠ []) (plain : ∀ n ∈ names, .char '"' ∉ n.toList) :
    stackParts (.intercalate ", " (names.map fontName)) = names.map fontName := by
  have pieces : unquotedPieces false (Text.intercalate ", " (names.map fontName)).toList =
      (names.map fontName).map Text.toList := by
    induction names with
    | nil => exact absurd rfl named
    | cons n rest ih =>
      rw [List.forall_mem_cons] at plain
      cases rest with
      | nil =>
        have last : unquotedPieces false [] = [[]] := rfl
        simpa using unquotedPieces_part plain.1 (standsAs_fontName n) (by simp) last
      | cons m more =>
        have next := ih (by simp) plain.2
        have parted : unquotedPieces false ((", " : Text).toList ++
            (Text.intercalate ", " ((m :: more).map fontName)).toList) = [] :: _ :=
          (unquotedPieces.eq_2 _).trans (congrArg ([] :: ·) next)
        have part := unquotedPieces_part plain.1 (standsAs_fontName n) (by simp) parted
        simpa using part
  rw [stackParts, pieces, List.map_map]
  exact List.map_id'' (fun part => rfl) _

/-- Quotes can be taken off again, as no name has any. -/
theorem unquoted_fontName (plain : .char '"' ∉ name.toList) : unquoted (fontName name) = name := by
  have kept : name.toList.filter (· ≠ .char '"') = name.toList := by
    refine List.filter_eq_self.mpr fun c hc => decide_eq_true ?_
    rintro rfl
    exact plain hc
  rw [unquoted, fontName]
  split
  · have quotes : ("\"" ++ name ++ "\"" : Text).toList =
        .char '"' :: (name.toList ++ [.char '"']) := by simp
    rw [quotes, List.filter_cons_of_neg (by simp), List.filter_append, kept,
      List.filter_cons_of_neg (by simp), List.filter_nil, List.append_nil, Text.ofList_toList]
  · rw [kept, Text.ofList_toList]

theorem fontStack_text (names : List Text) :
    fontStack (names.map .text) = .ok (.intercalate ", " (names.map fontName)) := by
  have spelt : fontNames (names.map .text) = .ok (names.map fontName) := by
    induction names with
    | nil => rfl
    | cons n rest ih => rw [List.map_cons, fontNames, ih]; rfl
  rw [fontStack, spelt]

theorem map_unquoted_stackParts (named : names ≠ []) (plain : ∀ n ∈ names, .char '"' ∉ n.toList) :
    (stackParts (.intercalate ", " (names.map fontName))).map unquoted = names := by
  rw [stackParts_intercalate named plain, List.map_map]
  exact (List.map_congr_left fun n hn => unquoted_fontName (plain n hn)).trans (List.map_id' _)

/-- A font stack of names without double quotes has one part for each name, in their order, which is
the name in quotes if it has a blank in it and else the name itself. Without their quotes the parts
are the names, so that no other names make the same stack. -/
theorem font_stack_is_read_back (named : names ≠ []) (plain : ∀ n ∈ names, .char '"' ∉ n.toList) :
    ∃ stack, fontStack (names.map .text) = .ok stack ∧
      List.Forall₂ StandsAs names (stackParts stack) ∧
      (stackParts stack).map unquoted = names ∧
      ∀ others : List Text, others ≠ [] → (∀ n ∈ others, .char '"' ∉ n.toList) →
        fontStack (others.map .text) = .ok stack → others = names := by
  refine ⟨_, fontStack_text names, ?_, map_unquoted_stackParts named plain, ?_⟩
  · rw [stackParts_intercalate named plain, List.forall₂_map_right_iff, List.forall₂_same]
    exact fun n _ => standsAs_fontName n
  · intro others named' plain' same
    rw [fontStack_text] at same
    rw [← map_unquoted_stackParts named' plain', Except.ok.inj same,
      map_unquoted_stackParts named plain]

theorem font_stack_is_read_back_listed :
    let names : List Text := ["Fira, Sans", "", "a,", "Noto\u3000Sans"]
    names ≠ [] ∧ (∀ n ∈ names, .char '"' ∉ n.toList) ∧
      fontStack (names.map .text) = .ok "\"Fira, Sans\", , a,, \"Noto\u3000Sans\"" ∧
      (stackParts "\"Fira, Sans\", , a,, \"Noto\u3000Sans\"").map unquoted = names := by
  intro names
  have named : names ≠ [] := by decide
  have plain : ∀ n ∈ names, .char '"' ∉ n.toList := by decide
  have spelt : fontStack (names.map .text) = .ok "\"Fira, Sans\", , a,, \"Noto\u3000Sans\"" := by
    decide
  obtain ⟨stack, made, -, back, -⟩ := font_stack_is_read_back named plain
  obtain rfl := Except.ok.inj (spelt.symm.trans made)
  exact ⟨named, plain, spelt, back⟩

end DesignTokens
