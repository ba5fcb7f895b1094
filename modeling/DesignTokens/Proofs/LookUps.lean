import DesignTokens.Lookup
import DesignTokens.Proofs.Flattening
import DesignTokens.Proofs.Pieces

/-!
# What a look-up answers

Keys lead from mapping to mapping, until a value is reached or a step is missing. The look-up of a
scalar answers with the fallback if a step is missing, if null or the truth value "false" is reached,
and for a blank scalar. It answers with any other scalar as it is, and refuses all that is left.
-/

namespace DesignTokens

namespace Value

/-- The keys lead from a value to another one, each of them through a mapping that has it. -/
inductive Holds : Value → List Text → Value → Prop
  | here (v : Value) : Holds v [] v
  | step {es : Entries} {key : Text} {next w : Value} {rest : List Text}
      (entry : es.get? key = some next) (below : Holds next rest w) : Holds (.map es) (key :: rest) w

/-- A step is missing: what the keys before it lead to is no mapping or has no such key. -/
inductive Lacks : Value → List Text → Prop
  | noMapping {v : Value} (key : Text) (rest : List Text) (none : v.entries? = none) :
      Lacks v (key :: rest)
  | noEntry {es : Entries} {key : Text} (rest : List Text) (none : es.get? key = none) :
      Lacks (.map es) (key :: rest)
  | step {es : Entries} {key : Text} {next : Value} {rest : List Text}
      (entry : es.get? key = some next) (below : Lacks next rest) : Lacks (.map es) (key :: rest)

theorem at?_of_holds {v w : Value} {steps : List Text} (holds : v.Holds steps w) :
    v.at? steps = some w := by
  induction holds with
  | here v => cases v <;> rfl
  | step entry _ ih =>
    rw [at?, entry]
    exact ih

theorem at?_of_lacks {v : Value} {steps : List Text} (lacks : v.Lacks steps) :
    v.at? steps = none := by
  induction lacks with
  | @noMapping v key rest none =>
    cases v with
    | map es => cases none
    | atom a | list items | tuple items | set members => rfl
  | noEntry rest none =>
    rw [at?, none]
  | step entry _ ih =>
    rw [at?, entry]
    exact ih

/-- The keys lead to a value or a step is missing. -/
theorem holds_or_lacks (v : Value) (steps : List Text) : (∃ w, v.Holds steps w) ∨ v.Lacks steps := by
  induction steps generalizing v with
  | nil => exact Or.inl ⟨v, .here v⟩
  | cons key rest ih =>
    cases v with
    | atom a | list items | tuple items | set members => exact Or.inr (.noMapping key rest rfl)
    | map es =>
      cases entry : Entries.get? es key with
      | none => exact Or.inr (.noEntry rest entry)
      | some next =>
        rcases ih next with ⟨w, below⟩ | below
        · exact Or.inl ⟨w, .step entry below⟩
        · exact Or.inr (.step entry below)

theorem at?_eq_some_iff (v w : Value) (steps : List Text) :
    v.at? steps = some w ↔ v.Holds steps w := by
  refine ⟨fun found => ?_, at?_of_holds⟩
  rcases v.holds_or_lacks steps with ⟨w', holds⟩ | lacks
  · obtain rfl : w' = w := Option.some.inj ((at?_of_holds holds).symm.trans found)
    exact holds
  · rw [at?_of_lacks lacks] at found
    cases found

theorem at?_eq_none_iff (v : Value) (steps : List Text) : v.at? steps = none ↔ v.Lacks steps := by
  refine ⟨fun lost => ?_, at?_of_lacks⟩
  rcases v.holds_or_lacks steps with ⟨w, holds⟩ | lacks
  · rw [at?_of_holds holds] at lost
    cases lost
  · exact lacks

end Value

namespace Document

/-- A dotted path leads to a value. -/
def Holds (doc : Document) (path : Text) (v : Value) : Prop :=
  (Value.map doc).Holds (Text.splitAt '.' path) v

/-- A step of a dotted path is missing. -/
def Lacks (doc : Document) (path : Text) : Prop := (Value.map doc).Lacks (Text.splitAt '.' path)

theorem lookup_eq_some_iff (doc : Document) (path : Text) (v : Value) :
    doc.lookup path = some v ↔ doc.Holds path v :=
  Value.at?_eq_some_iff _ v _

theorem lookup_eq_none_iff (doc : Document) (path : Text) :
    doc.lookup path = none ↔ doc.Lacks path :=
  Value.at?_eq_none_iff _ _

end Document

/-- A dotted path is named by its steps with dashes between them. -/
theorem dashed_eq_intercalate (path : Text) :
    dashed path = Text.intercalate "-" (Text.splitAt '.' path) := by
  have dash : ("-" : Text).toList = [.char '-'] := rfl
  rw [← Text.toList_inj, Text.toList_intercalate_splitAt dash, dashed, Text.toList_ofList]

/-- The empty text and the zeros. -/
inductive Scalar.Blank : Scalar → Prop
  | text : Blank (.text "")
  | int : Blank (.int 0)
  | float (negative : Bool) : Blank (.float (.zero negative))

theorem Binary64.isZero_iff (x : Binary64) : x.isZero = true ↔ ∃ negative, x = .zero negative := by
  cases x with
  | nan => simp [isZero, zero]
  | signed negative rank =>
    rw [isZero, decide_eq_true_eq]
    constructor
    · intro none
      exact ⟨negative, congrArg (signed negative) (Fin.ext none)⟩
    · rintro ⟨negative', same⟩
      cases same
      rfl

theorem Scalar.isVoid_iff (s : Scalar) : (Value.scalar s).isVoid = true ↔ s.Blank := by
  cases s with
  | text t =>
    rw [Value.isVoid, decide_eq_true_eq]
    exact ⟨fun h => h ▸ .text, fun blank => by cases blank; rfl⟩
  | int n =>
    rw [Value.isVoid, decide_eq_true_eq]
    exact ⟨fun h => h ▸ .int, fun blank => by cases blank; rfl⟩
  | float x =>
    rw [Value.isVoid, Binary64.isZero_iff]
    constructor
    · rintro ⟨negative, rfl⟩
      exact .float negative
    · intro blank
      cases blank with
      | float negative => exact ⟨negative, rfl⟩

/-- Void values are null, "false" and the blank scalars. -/
theorem Value.isVoid_iff (v : Value) :
    v.isVoid = true ↔ v = .null ∨ v = .bool false ∨ ∃ s, v = .scalar s ∧ s.Blank := by
  cases v with
  | atom a =>
    cases a with
    | scalar s => simp [Scalar.isVoid_iff]
    | bool b => cases b <;> simp [isVoid]
    | null | date d | moment t | clock c | octets bytes => simp [isVoid]
  | list items | tuple items | set members | map entries => simp [isVoid]

/-- There is nothing at a path that could be given, or only what stands for no token. -/
def Document.FallsBack (doc : Document) (path : Text) : Prop :=
  doc.Lacks path ∨ doc.Holds path .null ∨ doc.Holds path (.bool false) ∨
    ∃ s, doc.Holds path (.scalar s) ∧ s.Blank

/-- What is reached is refused: it is no scalar, and it stands for something. -/
def Document.Refuses (doc : Document) (path : Text) (v : Value) : Prop :=
  doc.Holds path v ∧ v.scalar? = none ∧ v ≠ .null ∧ v ≠ .bool false

namespace Document

variable {doc : Document} {path : Text}

theorem lookupScalar_of_fallsBack (falls : doc.FallsBack path) (fallback : Scalar) :
    doc.lookupScalar path fallback = .ok fallback := by
  have replaced {v : Value} (holds : doc.Holds path v) (void : v.isVoid = true) :
      doc.lookupScalar path fallback = .ok fallback := by
    rw [lookupScalar, (doc.lookup_eq_some_iff path v).mpr holds]
    exact if_pos void
  rcases falls with lacks | holds | holds | ⟨s, holds, blank⟩
  · rw [lookupScalar, (doc.lookup_eq_none_iff path).mpr lacks]
  · exact replaced holds rfl
  · exact replaced holds rfl
  · exact replaced holds (s.isVoid_iff.mpr blank)

theorem lookupScalar_of_scalar {s : Scalar} (holds : doc.Holds path (.scalar s))
    (told : ¬ s.Blank) (fallback : Scalar) : doc.lookupScalar path fallback = .ok s := by
  rw [← s.isVoid_iff] at told
  rw [lookupScalar, (doc.lookup_eq_some_iff path _).mpr holds]
  exact if_neg told

theorem lookupScalar_of_refuses {v : Value} (refuses : doc.Refuses path v) (fallback : Scalar) :
    doc.lookupScalar path fallback = .error (.malformed (dashed path) (.notScalar v.kind)) := by
  obtain ⟨holds, other, notNull, notFalse⟩ := refuses
  have told : ¬ v.isVoid = true := by
    rw [v.isVoid_iff]
    rintro (rfl | rfl | ⟨s, rfl, -⟩)
    · exact notNull rfl
    · exact notFalse rfl
    · cases other
  rw [lookupScalar, (doc.lookup_eq_some_iff path v).mpr holds]
  dsimp only
  rw [if_neg told, other]

/-- A look-up falls back, finds a scalar that stands for something, or refuses what it finds. -/
theorem fallsBack_or_holds_or_refuses (doc : Document) (path : Text) :
    doc.FallsBack path ∨ (∃ s, doc.Holds path (.scalar s) ∧ ¬ s.Blank) ∨ ∃ v, doc.Refuses path v := by
  rcases Value.holds_or_lacks (.map doc) (Text.splitAt '.' path) with ⟨v, holds⟩ | lacks
  · cases hv : v.scalar? with
    | some s =>
      obtain rfl : v = .scalar s := Value.eq_of_scalar?_eq_some hv
      by_cases blank : s.Blank
      · exact Or.inl (Or.inr (Or.inr (Or.inr ⟨s, holds, blank⟩)))
      · exact Or.inr (Or.inl ⟨s, holds, blank⟩)
    | none =>
      by_cases null : v = .null
      · exact Or.inl (Or.inr (Or.inl (null ▸ holds)))
      by_cases no : v = .bool false
      · exact Or.inl (Or.inr (Or.inr (Or.inl (no ▸ holds))))
      · exact Or.inr (Or.inr ⟨v, holds, hv, null, no⟩)
  · exact Or.inl (Or.inl lacks)

theorem lookupScalar_eq_ok_iff (doc : Document) (path : Text) (fallback s : Scalar) :
    doc.lookupScalar path fallback = .ok s ↔
      doc.FallsBack path ∧ s = fallback ∨ doc.Holds path (.scalar s) ∧ ¬ s.Blank := by
  constructor
  · intro given
    rcases doc.fallsBack_or_holds_or_refuses path with falls | ⟨t, holds, told⟩ | ⟨v, refuses⟩
    · rw [lookupScalar_of_fallsBack falls] at given
      exact Or.inl ⟨falls, (Except.ok.inj given).symm⟩
    · rw [lookupScalar_of_scalar holds told] at given
      obtain rfl := Except.ok.inj given
      exact Or.inr ⟨holds, told⟩
    · rw [lookupScalar_of_refuses refuses] at given
      cases given
  · rintro (⟨falls, rfl⟩ | ⟨holds, told⟩)
    · exact lookupScalar_of_fallsBack falls s
    · exact lookupScalar_of_scalar holds told fallback

theorem lookupScalar_eq_error_iff (doc : Document) (path : Text) (fallback : Scalar)
    (fault : TokenFault) :
    doc.lookupScalar path fallback = .error fault ↔
      ∃ v, doc.Refuses path v ∧ fault = .malformed (dashed path) (.notScalar v.kind) := by
  constructor
  · intro failed
    rcases doc.fallsBack_or_holds_or_refuses path with falls | ⟨t, holds, told⟩ | ⟨v, refuses⟩
    · rw [lookupScalar_of_fallsBack falls] at failed
      cases failed
    · rw [lookupScalar_of_scalar holds told] at failed
      cases failed
    · rw [lookupScalar_of_refuses refuses] at failed
      exact ⟨v, refuses, (Except.error.inj failed).symm⟩
  · rintro ⟨v, refuses, rfl⟩
    exact lookupScalar_of_refuses refuses fallback

end Document

/-- A look-up answers with the fallback just if a step is missing or what is reached is null, "false"
or blank, and otherwise with the scalar that is reached. It fails just on what is none of these, with
the path in dashes and the type of what is there. Of the values that flattening refuses, the fallback
takes the place of null and "false" and of no other. -/
theorem lookupScalar_gives_or_refuses (doc : Document) (path : Text) (fallback : Scalar) :
    (∀ s, doc.lookupScalar path fallback = .ok s ↔
      doc.FallsBack path ∧ s = fallback ∨ doc.Holds path (.scalar s) ∧ ¬ s.Blank) ∧
    (∀ fault, doc.lookupScalar path fallback = .error fault ↔ ∃ v, doc.Refuses path v ∧
      fault = .malformed (Text.intercalate "-" (Text.splitAt '.' path)) (.notScalar v.kind)) ∧
    ∀ v key base flat fault, doc.Holds path v → flattenValue key base v flat = .error fault →
      (doc.lookupScalar path fallback = .ok fallback ↔ v = .null ∨ v = .bool false) := by
  refine ⟨doc.lookupScalar_eq_ok_iff path fallback, fun fault => ?_, ?_⟩
  · rw [doc.lookupScalar_eq_error_iff, dashed_eq_intercalate]
  · intro v key base flat fault holds refused
    have only {w : Value} (other : doc.Holds path w) : w = v := by
      rw [← doc.lookup_eq_some_iff] at holds other
      exact Option.some.inj (other.symm.trans holds)
    have noScalar (s : Scalar) : v ≠ .scalar s := by
      rintro rfl
      cases refused
    rw [doc.lookupScalar_eq_ok_iff]
    constructor
    · rintro (⟨lacks | null | no | ⟨s, blank, -⟩, -⟩ | ⟨scalar, -⟩)
      · rw [← doc.lookup_eq_some_iff] at holds
        rw [← doc.lookup_eq_none_iff, holds] at lacks
        cases lacks
      · exact Or.inl (only null).symm
      · exact Or.inr (only no).symm
      · exact absurd (only blank).symm (noScalar s)
      · exact absurd (only scalar).symm (noScalar fallback)
    · rintro (rfl | rfl)
      · exact Or.inl ⟨Or.inr (Or.inl holds), rfl⟩
      · exact Or.inl ⟨Or.inr (Or.inr (Or.inl holds)), rfl⟩

/-- A shadow that is soft, and no inset. -/
def Document.shaded : Document :=
  [(.text "shadow", .map [(.text "soft", .bool true), (.text "inset", .bool false)])]

theorem lookupScalar_gives_or_refuses_shaded :
    Document.shaded.Holds "shadow.soft" (.bool true) ∧
      flattenValue "soft" "shadow-soft" (.bool true) [] =
        .error (.malformed "shadow-soft" (.unsupported .bool)) ∧
      Document.shaded.lookupScalar "shadow.soft" (.int 1) ≠ .ok (.int 1) := by
  have holds : Document.shaded.Holds "shadow.soft" (.bool true) := .step rfl (.step rfl (.here _))
  have refused : flattenValue "soft" "shadow-soft" (.bool true) [] =
      .error (.malformed "shadow-soft" (.unsupported .bool)) := rfl
  refine ⟨holds, refused, fun replaced => ?_⟩
  have told := (lookupScalar_gives_or_refuses .shaded "shadow.soft" (.int 1)).2.2 _ _ _ _ _ holds
    refused
  simpa using told.mp replaced

/-- The truth value "false" is there, is no scalar and is refused by flattening, and still the
fallback takes its place. -/
theorem false_passes_for_missing :
    Document.shaded.Holds "shadow.inset" (.bool false) ∧ (Value.bool false).isScalar = false ∧
      flattenValue "inset" "shadow-inset" (.bool false) [] =
        .error (.malformed "shadow-inset" (.unsupported .bool)) ∧
      Document.shaded.lookupScalar "shadow.inset" (.int 1) = .ok (.int 1) :=
  ⟨.step rfl (.step rfl (.here _)), rfl, rfl, rfl⟩

end DesignTokens
