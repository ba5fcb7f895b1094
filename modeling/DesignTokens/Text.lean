import DesignTokens.Proofs.Utf8

/-! # Texts

A text of a document is a list of letters: characters, and the surrogates that an escape can write
without their partner. A surrogate is no character and no encoding has octets for it, so a text may
be one that no file can hold. -/
namespace DesignTokens

/-- A character, or one of the code points that stand for halves of a pair. -/
inductive Letter
  | char (c : Char)
  | surrogate (n : Fin 2048)
  deriving DecidableEq, Repr

namespace Letter

instance : Coe Char Letter := ⟨char⟩

def code : Letter → Nat
  | char c => c.toNat
  | surrogate n => 0xD800 + n

def char? : Letter → Option Char
  | char c => some c
  | surrogate _ => none

def isSurrogate : Letter → Bool
  | char _ => false
  | surrogate _ => true

/-- The character that is read in place of a letter: for a surrogate one that no notation knows. -/
def standIn : Letter → Char
  | char c => c
  | surrogate _ => '\uFFFD'

theorem char_injective : Function.Injective char := fun _ _ => char.inj

@[simp] theorem char?_char (c : Char) : (char c).char? = some c := rfl

@[simp] theorem standIn_char (c : Char) : (char c).standIn = c := rfl

@[simp] theorem standIn_comp_char : standIn ∘ char = id := rfl

theorem map_standIn_char (cs : List Char) : (cs.map char).map standIn = cs := by simp

end Letter

structure Text where
  ofList ::
  toList : List Letter
  deriving DecidableEq, Repr

namespace Text

variable (s t u : Text)

/-- The text of characters. -/
def ofChars (cs : List Char) : Text := ⟨cs.map .char⟩

/-- The text of a string is decoded from its octets, since these are what a string is made of. -/
@[coe] def ofString (s : String) : Text :=
  ofChars ((Utf8.decode s.toByteArray.data.toList).toOption.getD [])

instance : Coe String Text := ⟨ofString⟩

instance : Inhabited Text := ⟨⟨[]⟩⟩

instance : Append Text := ⟨fun s t => ⟨s.toList ++ t.toList⟩⟩

def length : Nat := s.toList.length

def join (texts : List Text) : Text := ⟨texts.flatMap toList⟩

def intercalate (separator : Text) (texts : List Text) : Text :=
  ⟨separator.toList.intercalate (texts.map toList)⟩

/-- The characters of a text without surrogates. -/
def chars? : Option (List Char) := s.toList.mapM Letter.char?

/-- A text with the character U+FFFD in place of every surrogate. -/
def standIn : String := .ofList (s.toList.map Letter.standIn)

variable {s t u}

@[ext] theorem ext (same : s.toList = t.toList) : s = t := congrArg ofList same

@[simp] theorem toList_inj : s.toList = t.toList ↔ s = t := ⟨ext, congrArg toList⟩

variable (s t u)

theorem toList_ofList (letters : List Letter) : (ofList letters).toList = letters := rfl

@[simp] theorem ofList_toList : ofList s.toList = s := rfl

@[simp] theorem toList_ofChars (cs : List Char) : (ofChars cs).toList = cs.map .char := rfl

@[simp] theorem ofChars_toList (s : String) : ofChars s.toList = s := by
  rw [ofString, Utf8.octets_of_string, Utf8.decode_encode]
  rfl

@[simp] theorem toList_ofString (s : String) : (s : Text).toList = s.toList.map .char := by
  rw [← ofChars_toList, toList_ofChars]

@[simp] theorem toList_append : (s ++ t).toList = s.toList ++ t.toList := rfl

@[simp] theorem ofString_inj {s t : String} : (s : Text) = t ↔ s = t := by
  rw [← toList_inj, toList_ofString, toList_ofString, List.map_inj_right fun _ _ => Letter.char.inj,
    String.toList_inj]

theorem ofString_append (s t : String) : ((s ++ t : String) : Text) = (s : Text) ++ (t : Text) :=
  ext (by simp)

@[simp] theorem toList_join (texts : List Text) : (join texts).toList = texts.flatMap toList := rfl

@[simp] theorem toList_intercalate (texts : List Text) :
    (intercalate s texts).toList = s.toList.intercalate (texts.map toList) := rfl

theorem append_assoc : s ++ t ++ u = s ++ (t ++ u) := ext (List.append_assoc ..)

@[simp] theorem append_empty : s ++ ("" : Text) = s := ext (List.append_nil _)

@[simp] theorem empty_append : ("" : Text) ++ s = s := rfl

@[simp] theorem append_right_inj {s t u : Text} : s ++ t = s ++ u ↔ t = u := by
  rw [← toList_inj, toList_append, toList_append, List.append_cancel_left_eq, toList_inj]

@[simp] theorem append_eq_empty_iff {s t : Text} : s ++ t = ("" : Text) ↔ s = "" ∧ t = "" := by
  simp [← toList_inj]

@[simp] theorem length_append : (s ++ t).length = s.length + t.length := List.length_append

@[simp] theorem length_ofString (s : String) : (s : Text).length = s.length := by
  simp [length, String.length_toList]

@[simp] theorem join_nil : join [] = "" := rfl

@[simp] theorem join_cons (texts : List Text) : join (s :: texts) = s ++ join texts := rfl

theorem join_append (texts more : List Text) : join (texts ++ more) = join texts ++ join more :=
  ext (by simp)

theorem intercalate_singleton : intercalate s [t] = t := ext (by simp)

theorem intercalate_cons_cons (texts : List Text) :
    intercalate s (t :: u :: texts) = t ++ s ++ intercalate s (u :: texts) := ext (by simp)

end Text

end DesignTokens
