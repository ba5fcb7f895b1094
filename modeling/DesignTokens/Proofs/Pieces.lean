import DesignTokens.Text.Pieces

/-!
# Taking texts apart

The pieces of a text between separators are the pieces that were joined. A text without the separator
is one piece. Joining the pieces gives the text back, with what joins them in place of the separators.
-/

namespace DesignTokens.Text

variable {α : Type} [DecidableEq α] {separator : α}

theorem pieces_ne_nil (separator : α) (cs : List α) : pieces separator cs ≠ [] := by
  cases cs with
  | nil => simp [pieces]
  | cons c cs =>
    rw [pieces]
    split
    · simp
    · split <;> simp

theorem pieces_of_notMem {cs : List α} (free : separator ∉ cs) : pieces separator cs = [cs] := by
  induction cs with
  | nil => rfl
  | cons c cs ih =>
    rw [List.mem_cons, not_or] at free
    rw [pieces, if_neg (Ne.symm free.1), ih free.2]

theorem pieces_append (separator : α) (cs ds : List α) :
    pieces separator (cs ++ separator :: ds) = pieces separator cs ++ pieces separator ds := by
  induction cs with
  | nil => simp [pieces]
  | cons c cs ih =>
    rw [List.cons_append, pieces, pieces, ih]
    by_cases hc : c = separator
    · rw [if_pos hc, if_pos hc, List.cons_append]
    · rw [if_neg hc, if_neg hc]
      cases hp : pieces separator cs with
      | nil => exact absurd hp (pieces_ne_nil separator cs)
      | cons p ps => rfl

theorem intercalate_pieces (separator other : α) (cs : List α) :
    [other].intercalate (pieces separator cs) =
      cs.map fun c => if c = separator then other else c := by
  induction cs with
  | nil => rfl
  | cons c cs ih =>
    rw [pieces, List.map_cons, ← ih]
    by_cases hc : c = separator
    · rw [if_pos hc, if_pos hc, List.intercalate_cons_of_ne_nil (pieces_ne_nil separator cs)]
      rfl
    · rw [if_neg hc, if_neg hc]
      cases hp : pieces separator cs with
      | nil => exact absurd hp (pieces_ne_nil separator cs)
      | cons p ps =>
        cases ps with
        | nil => rfl
        | cons q qs => rfl

theorem mem_intercalate {α : Type} {between : List α} {texts : List (List α)} {c : α}
    (h : c ∈ between.intercalate texts) : c ∈ between ∨ ∃ text ∈ texts, c ∈ text := by
  induction texts with
  | nil => simp at h
  | cons text texts ih =>
    cases texts with
    | nil => exact Or.inr ⟨text, List.mem_cons_self, by simpa using h⟩
    | cons text' texts' =>
      rw [List.intercalate_cons_cons, List.mem_append, List.mem_append] at h
      rcases h with (here | separator) | later
      · exact Or.inr ⟨text, List.mem_cons_self, here⟩
      · exact Or.inl separator
      · rcases ih later with separator | ⟨inside, known, hc⟩
        · exact Or.inl separator
        · exact Or.inr ⟨inside, List.mem_cons_of_mem _ known, hc⟩

theorem subset_of_mem_pieces {cs piece : List α} (made : piece ∈ pieces separator cs) :
    piece ⊆ cs := by
  induction cs generalizing piece with
  | nil => simp_all [pieces]
  | cons c cs ih =>
    rw [pieces] at made
    split at made
    · rcases List.mem_cons.mp made with rfl | later
      · exact List.nil_subset _
      · exact List.subset_cons_of_subset c (ih later)
    · cases parts : pieces separator cs with
      | nil => exact absurd parts (pieces_ne_nil separator cs)
      | cons first others =>
        rw [parts] at made ih
        rcases List.mem_cons.mp made with rfl | later
        · exact List.cons_subset_cons c (ih List.mem_cons_self)
        · exact List.subset_cons_of_subset c (ih (List.mem_cons_of_mem _ later))

theorem pieces_injective {cs ds : List α} (same : pieces separator cs = pieces separator ds) :
    cs = ds := by
  have joined (cs : List α) : [separator].intercalate (pieces separator cs) = cs := by
    rw [intercalate_pieces]
    refine List.map_id'' (fun c => ?_) cs
    split
    · rename_i h
      exact h.symm
    · rfl
  rw [← joined cs, same, joined]

/-- The pieces joined by a text of one character. -/
theorem toList_intercalate_splitAt {between : Text} {other : Letter}
    (single : between.toList = [other]) (separator : Char) (t : Text) :
    (intercalate between (splitAt separator t)).toList =
      t.toList.map fun c => if c = .char separator then other else c := by
  have letters : toList ∘ ofList = id := rfl
  rw [toList_intercalate, single, splitAt, List.map_map, letters, List.map_id, intercalate_pieces]

end DesignTokens.Text
