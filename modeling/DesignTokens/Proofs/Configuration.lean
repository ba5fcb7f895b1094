import DesignTokens.Proofs.Entries
import DesignTokens.UtilityConfig

/-!
# What the utility configuration is made of

The configuration is put together from the groups of the document. It exists just if the two groups
that it needs are there and every font size that is a mapping has a scalar value.
-/

namespace DesignTokens

/-- The entries of the mapping under a dotted path, none if there is no mapping. -/
def Document.group (doc : Document) (path : Text) : Entries :=
  ((doc.lookup path).bind Value.entries?).getD []

theorem requireMapping_eq_ok_iff (doc : Document) (path : Text) (es : Entries) :
    doc.requireMapping path = .ok es ↔ doc.lookup path = some (.map es) := by
  unfold Document.requireMapping
  split
  · rename_i es' found
    rw [found]
    constructor
    · intro h
      rw [Except.ok.inj h]
    · intro h
      cases h
      rfl
  · rename_i absent
    rw [absent]
    simp
  · rename_i absent
    rw [absent]
    simp
  · rename_i v other _ found
    constructor
    · intro h
      cases h
    · intro h
      exact absurd (found.symm.trans h) (by simpa using other es)

namespace UtilityConfig

/-- A font size stands for itself, or is a mapping with a scalar value. -/
def isSize : Value → Bool
  | .map es => ((Entries.get? es valueKey).bind Value.scalar?).isSome
  | _ => true

/-- The font size that a value stands for. -/
def size : Value → Value
  | .map es => (((Entries.get? es valueKey).bind Value.scalar?).map Value.scalar).getD (.map es)
  | v => v

theorem fontSizes_cons_of_isSize (k : Atom) {v : Value} (rest : Entries) (fits : isSize v = true) :
    fontSizes ((k, v) :: rest) = (fontSizes rest).map ((k, size v) :: ·) := by
  cases v with
  | map es =>
    obtain ⟨s, hs⟩ := Option.isSome_iff_exists.mp fits
    rw [fontSizes, size, hs]
    rfl
  | atom a => rfl
  | list items => rfl
  | tuple items => rfl
  | set members => rfl

/-- How a font size that stands for nothing is told: by its path, unless its key has too many digits
to be written. -/
def unfitSize (key : Atom) : TokenFault :=
  match key.render? with
  | some text => .malformed ("typography-fontSize-" ++ text) .fontSizeValue
  | none => .overlong

theorem fontSizes_cons_of_unfit (key : Atom) {v : Value} (rest : Entries)
    (unfit : ¬ isSize v = true) : fontSizes ((key, v) :: rest) = .error (unfitSize key) := by
  cases v with
  | map node =>
    have none : (Entries.get? node valueKey).bind Value.scalar? = none :=
      Option.not_isSome_iff_eq_none.mp unfit
    rw [fontSizes, none, unfitSize]
    cases key.render? <;> rfl
  | atom a | list items | tuple items | set members => exact absurd rfl unfit

theorem fontSizes_of_all {es : Entries} (fit : (es.all fun e => isSize e.2) = true) :
    fontSizes es = .ok (es.map fun e => (e.1, size e.2)) := by
  induction es with
  | nil => rfl
  | cons e rest ih =>
    rw [List.all_cons, Bool.and_eq_true] at fit
    rw [fontSizes_cons_of_isSize e.1 rest fit.1, ih fit.2]
    rfl

theorem all_of_fontSizes {es sizes : Entries} (read : fontSizes es = .ok sizes) :
    (es.all fun e => isSize e.2) = true := by
  induction es generalizing sizes with
  | nil => rfl
  | cons e rest ih =>
    obtain ⟨k, v⟩ := e
    by_cases fits : isSize v = true
    · rw [fontSizes_cons_of_isSize k rest fits] at read
      cases hr : fontSizes rest with
      | ok done => rw [List.all_cons, fits, ih hr, Bool.and_self]
      | error fault =>
        rw [hr] at read
        cases read
    · rw [fontSizes_cons_of_unfit k rest fits] at read
      cases read

/-- The section of font sizes, which is there if the document has a group of them. -/
def sizeSection (doc : Document) : Entries :=
  match (doc.lookup "typography.fontSize").bind Value.entries? with
  | some es => [(Atom.text "fontSize", .map (es.map fun e => (e.1, size e.2)))]
  | none => []

/-- The sections of the configuration of a document with the given ramps and fonts. -/
def sections (doc : Document) (ramps fonts : Entries) : Entries :=
  [(.text "colors", .map [(.text "prsm", .map (colors doc ramps))]),
    (.text "fontFamily", .map (pick roleNames fonts))] ++ sizeSection doc ++
    present "borderRadius" (doc.lookup "borderRadius") ++
    present "boxShadow" (doc.lookup "shadows")

/-- The theme extends the framework's own by its sections. -/
def theme (sections : Entries) : Entries :=
  [(.text "theme", .map [(.text "extend", .map sections)])]

/-- A document has a configuration just if it has the two groups that are needed and all its font
sizes are sizes, and then it is put together from its groups. -/
theorem ofDocument_eq_ok_iff (doc : Document) (v : Value) :
    ofDocument doc = .ok v ↔
      ∃ ramps fonts, doc.lookup "colors" = some (.map ramps) ∧
        doc.lookup "typography.fontFamily" = some (.map fonts) ∧
        ((doc.group "typography.fontSize").all fun e => isSize e.2) = true ∧
        v = .map (theme (sections doc ramps fonts)) := by
  simp only [← requireMapping_eq_ok_iff]
  unfold ofDocument Document.group sections sizeSection
  cases doc.requireMapping "colors" with
  | error fault => simp [bind, Except.bind]
  | ok ramps =>
    cases doc.requireMapping "typography.fontFamily" with
    | error fault => simp [bind, Except.bind]
    | ok fonts =>
      cases (doc.lookup "typography.fontSize").bind Value.entries? with
      | none => simp [bind, Except.bind, pure, Except.pure, theme, eq_comm]
      | some es =>
        cases fit : es.all fun e => isSize e.2 with
        | true =>
          have read := fontSizes_of_all fit
          simp [bind, Except.bind, pure, Except.pure, Except.map, read, theme, fit, eq_comm]
        | false =>
          cases read : fontSizes es with
          | ok sizes =>
            rw [all_of_fontSizes read] at fit
            cases fit
          | error fault => simp [bind, Except.bind, Except.map, read, fit]

end UtilityConfig

end DesignTokens
