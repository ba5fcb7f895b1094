import DesignTokens.Number.Notation
import Mathlib.Tactic.Tauto

/-!
# The characters of number texts

A whole number is written with digits and a sign, a double with digits, a point, an exponent mark and
signs, unless it is infinite or no number.
-/

namespace DesignTokens

theorem isDigit_of_mem_natText {n : Nat} {c : Char} (h : c ∈ natText n) : c.isDigit :=
  Nat.isDigit_of_mem_toDigits (by decide) (by decide) h

theorem intText_of_intText? {n : Int} {text : String} (shown : intText? n = some text) :
    text = intText n := by
  unfold intText? at shown
  split at shown
  · cases shown
  · exact (Option.some.inj shown).symm

theorem mem_intText {n : Int} {c : Char} (h : c ∈ (intText n).toList) : c.isDigit ∨ c = '-' := by
  unfold intText at h
  split at h
  · rw [String.toList_ofList, List.mem_cons] at h
    exact h.symm.imp_left isDigit_of_mem_natText
  · rw [String.toList_ofList] at h
    exact Or.inl (isDigit_of_mem_natText h)

namespace Notation

theorem mem_positional {digits : List Char} {n : Int} {c : Char} (h : c ∈ positional digits n) :
    c ∈ digits ∨ c = '0' ∨ c = '.' := by
  unfold positional at h
  split at h
  · simp only [List.mem_cons, List.mem_append, List.mem_replicate] at h
    tauto
  · split at h
    · simp only [List.mem_append, List.mem_replicate, List.mem_cons, List.not_mem_nil] at h
      tauto
    · simp only [List.mem_append, List.mem_cons] at h
      rcases h with front | point | back
      · exact Or.inl (List.mem_of_mem_take front)
      · exact Or.inr (Or.inr point)
      · exact Or.inl (List.mem_of_mem_drop back)

theorem mem_exponential {f : Notation} {digits : List Char} {e : Int} {c : Char}
    (h : c ∈ f.exponential digits e) :
    c ∈ digits ∨ c.isDigit ∨ c ∈ ['.', '+', '-', f.exponentMark] := by
  have power (hc : c ∈ f.exponentMark :: (if e < 0 then '-' else '+') ::
      (List.replicate (f.exponentDigits - (natText e.natAbs).length) '0' ++ natText e.natAbs)) :
      c.isDigit ∨ c ∈ ['.', '+', '-', f.exponentMark] := by
    simp only [List.mem_append, List.mem_cons, List.mem_replicate] at hc
    rcases hc with mark | sign | ⟨-, zero⟩ | digit
    · simp [mark]
    · split at sign <;> simp [sign]
    · exact Or.inl (by rw [zero]; decide)
    · exact Or.inl (isDigit_of_mem_natText digit)
  unfold exponential at h
  dsimp only at h
  cases digits with
  | nil => exact Or.inr (power h)
  | cons d more =>
    rcases List.mem_append.mp h with front | behind
    · cases more with
      | nil => exact Or.inl front
      | cons d' more =>
        simp only [List.mem_cons] at front ⊢
        tauto
    · exact Or.inr (power behind)

theorem mem_magnitude {f : Notation} {rank : Nat} {c : Char} (h : c ∈ f.magnitude rank) :
    c.isDigit ∨ c ∈ ['.', '+', '-', f.exponentMark] := by
  unfold magnitude at h
  split at h
  · simp only [List.mem_cons, List.not_mem_nil, or_false] at h
    rcases h with rfl | rfl | rfl <;> simp [Char.isDigit]
  dsimp only at h
  split at h
  · rcases mem_positional h with digit | rfl | rfl
    · exact Or.inl (isDigit_of_mem_natText digit)
    · exact Or.inl (by decide)
    · simp
  · rcases mem_exponential h with digit | digit | mark
    · exact Or.inl (isDigit_of_mem_natText digit)
    · exact Or.inl digit
    · exact Or.inr mark

theorem mem_write {f : Notation} {x : Binary64} {c : Char} (h : c ∈ (f.write x).toList) :
    c.isDigit ∨ c ∈ ['.', '+', '-', f.exponentMark] ∨ c ∈ f.notANumber.toList ∨
      c ∈ f.infinite.toList := by
  cases x with
  | nan => exact Or.inr (Or.inr (Or.inl h))
  | signed negative rank =>
    unfold write at h
    dsimp only at h
    have sign (tail : String)
        (h : c ∈ ((if negative then "-" else "") ++ tail).toList) : c = '-' ∨ c ∈ tail.toList := by
      rw [String.toList_append, List.mem_append] at h
      refine h.imp_left fun mark => ?_
      cases negative with
      | false => simp at mark
      | true => simpa using mark
    split at h
    · rcases sign _ h with rfl | word
      · simp
      · exact Or.inr (Or.inr (Or.inr word))
    · rcases sign _ h with rfl | number
      · simp
      · rw [String.toList_ofList] at number
        exact (mem_magnitude number).imp_right Or.inl

end Notation

end DesignTokens
