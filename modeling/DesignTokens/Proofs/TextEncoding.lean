import DesignTokens.Text.Encoding

/-!
# The texts that have octets

A text has octets if it is made of characters, and they are the octets of these characters. So what
a file holds of a text tells the text, and a surrogate anywhere in it is the only obstacle.
-/

namespace DesignTokens.Text

theorem faultFrom_map_char (position : Nat) (cs : List Char) :
    faultFrom position (cs.map .char) = none := by
  induction cs generalizing position with
  | nil => rfl
  | cons c cs ih => exact ih (position + 1)

theorem exists_of_faultFrom {position : Nat} {letters : List Letter}
    (none : faultFrom position letters = none) : ∃ cs : List Char, letters = cs.map .char := by
  induction letters generalizing position with
  | nil => exact ⟨[], rfl⟩
  | cons first letters ih =>
    cases first with
    | surrogate n => cases none
    | char c =>
      obtain ⟨cs, rfl⟩ := ih none
      exact ⟨c :: cs, rfl⟩

@[simp] theorem encode_ofChars (cs : List Char) : (ofChars cs).encode = .ok (Utf8.encode cs) := by
  rw [encode, toList_ofChars, faultFrom_map_char, List.filterMap_map]
  exact congrArg (fun cs => Except.ok (Utf8.encode cs)) List.filterMap_some

theorem encode_eq_ok_iff {t : Text} {octets : List UInt8} :
    t.encode = .ok octets ↔ ∃ cs, t = ofChars cs ∧ octets = Utf8.encode cs := by
  constructor
  · intro encoded
    cases fault : faultFrom 0 t.toList with
    | some f =>
      rw [encode, fault] at encoded
      cases encoded
    | none =>
      obtain ⟨cs, letters⟩ := exists_of_faultFrom fault
      obtain rfl : t = ofChars cs := ext letters
      rw [encode_ofChars] at encoded
      exact ⟨cs, rfl, (Except.ok.inj encoded).symm⟩
  · rintro ⟨cs, rfl, rfl⟩
    exact encode_ofChars cs

theorem faultFrom_eq_none_iff {position : Nat} {letters : List Letter} :
    faultFrom position letters = none ↔ ∀ l ∈ letters, l.isSurrogate = false := by
  induction letters generalizing position with
  | nil => simp [faultFrom]
  | cons first letters ih => cases first <;> simp [faultFrom, ih, Letter.isSurrogate]

@[simp] theorem isSurrogate_char (c : Char) : (Letter.char c).isSurrogate = false := rfl

/-- No letter is a surrogate. -/
def Whole (letters : List Letter) : Prop := ∀ l ∈ letters, l.isSurrogate = false

namespace Whole

theorem subset {letters part : List Letter} (whole : Whole letters) (within : part ⊆ letters) :
    Whole part :=
  fun l hl => whole l (within hl)

@[simp] theorem append_iff {letters more : List Letter} :
    Whole (letters ++ more) ↔ Whole letters ∧ Whole more :=
  List.forall_mem_append

@[simp] theorem cons_iff {l : Letter} {letters : List Letter} :
    Whole (l :: letters) ↔ l.isSurrogate = false ∧ Whole letters :=
  List.forall_mem_cons

@[simp] theorem nil : Whole [] := fun _ none => nomatch none

@[simp] theorem map_char (cs : List Char) : Whole (cs.map .char) := by
  simp [Whole]

@[simp] theorem replicate_char (n : Nat) (c : Char) : Whole (List.replicate n (.char c)) :=
  List.map_replicate (f := Letter.char) ▸ map_char _

@[simp] theorem ofString (s : String) : Whole (s : Text).toList := by simp

theorem exists_chars {letters : List Letter} (whole : Whole letters) :
    ∃ cs : List Char, letters = cs.map .char := by
  have unfaulted : faultFrom 0 letters = none := faultFrom_eq_none_iff.mpr whole
  exact exists_of_faultFrom unfaulted

end Whole

/-- A text has octets just if there is no surrogate in it. -/
theorem exists_octets_iff {t : Text} :
    (∃ octets, t.encode = .ok octets) ↔ ∀ l ∈ t.toList, l.isSurrogate = false := by
  rw [← @faultFrom_eq_none_iff 0, encode]
  cases faultFrom 0 t.toList <;> simp

/-- What a file is left with when a text is stored in it: the octets of the text, or none if it has
none. -/
def octets (t : Text) : List UInt8 := t.encode.toOption.getD []

/-- Why a text has no octets. -/
def fault? (t : Text) : Option EncodingFault :=
  match t.encode with
  | .ok _ => none
  | .error f => some f

theorem fault?_eq_none_iff {t : Text} : t.fault? = none ↔ t.encode = .ok t.octets := by
  rw [fault?, octets]
  cases t.encode <;> simp [Except.toOption]

theorem octets_of_encode {t : Text} {octets : List UInt8} (encoded : t.encode = .ok octets) :
    t.octets = octets := by
  rw [Text.octets, encoded]
  rfl

theorem octets_of_fault {t : Text} {f : EncodingFault} (fault : t.fault? = some f) :
    t.octets = [] := by
  rw [fault?] at fault
  rw [octets]
  cases encoded : t.encode with
  | ok octets =>
    rw [encoded] at fault
    cases fault
  | error f => rfl

end DesignTokens.Text
