import DesignTokens.Proofs.Flattening
import DesignTokens.Proofs.NumberText
import DesignTokens.Sheet.Base
import DesignTokens.Sheet.Reveal
import DesignTokens.Sheet.Webslides

/-!
# Metadata is invisible to the style sheets

A document is stripped of the entries whose keys are metadata, at every depth. The walk through the
stripped document visits the same positions and finds the same there, and no path that a style sheet
looks up leads through metadata. So a style sheet depends on a document only up to its metadata.
-/

namespace DesignTokens

/-- The text of the key starts as metadata does. A key without a text is none. -/
def Atom.isMetadata (key : Atom) : Bool := key.render?.any isMetadataKey

mutual

/-- The value without the metadata in it, at every depth. -/
def Value.strip : Value → Value
  | .atom a => .atom a
  | .list items => .list (stripItems items)
  | .tuple items => .tuple (stripItems items)
  | .set members => .set members
  | .map entries => .map (stripEntries entries)

def stripItems : List Value → List Value
  | [] => []
  | v :: vs => v.strip :: stripItems vs

def stripEntries : List (Atom × Value) → List (Atom × Value)
  | [] => []
  | (key, v) :: rest =>
    if key.isMetadata then stripEntries rest else (key, v.strip) :: stripEntries rest

end

def Document.strip (doc : Document) : Document := stripEntries doc

theorem dollar_notMem_natText (n : Nat) : '$' ∉ natText n := by
  intro h
  exact absurd (isDigit_of_mem_natText h) (by decide)

theorem dollar_notMem_intText (n : Int) : '$' ∉ (intText n).toList := by
  intro h
  exact absurd (mem_intText h) (by decide)

theorem dollar_notMem_write (x : Binary64) : '$' ∉ (plain.write x).toList := by
  intro h
  exact absurd (Notation.mem_write h) (by decide)

theorem dollar_notMem_padded (width n : Nat) : '$' ∉ (padded width n).toList := by
  simp [padded, dollar_notMem_natText]

theorem dollar_notMem_date (d : Date) : '$' ∉ d.text.toList := by
  simp [Date.text, dollar_notMem_padded]

theorem dollar_notMem_clock (c : Clock) : '$' ∉ c.text.toList := by
  unfold Clock.text
  by_cases hm : c.micro = 0 <;> simp [hm, dollar_notMem_padded]

theorem dollar_notMem_moment (t : Moment) : '$' ∉ t.text.toList := by
  have offset (seconds : Int) : '$' ∉ (Moment.offsetText seconds).toList := by
    unfold Moment.offsetText
    by_cases hs : seconds < 0 <;> by_cases hn : seconds.natAbs % 60 = 0 <;>
      simp [hs, hn, dollar_notMem_padded]
  unfold Moment.text
  cases t.offset with
  | none => simp [dollar_notMem_date, dollar_notMem_clock]
  | some seconds => simp [dollar_notMem_date, dollar_notMem_clock, offset]

theorem not_isMetadataKey {text : String} (free : '$' ∉ text.toList) :
    isMetadataKey text = false := by
  unfold isMetadataKey
  rw [decide_eq_false_iff_not]
  intro first
  have within := List.mem_of_head? first
  rw [Text.toList_ofString, List.mem_map_of_injective Letter.char_injective] at within
  exact free within

/-- Metadata keys are texts: no other atom has a text that starts with a dollar sign. -/
theorem Atom.isMetadata_iff (key : Atom) :
    key.isMetadata = true ↔ ∃ s, key = .text s ∧ isMetadataKey s = true := by
  constructor
  · intro metadata
    have written {text : Text} (shown : key.render? = some text)
        (free : isMetadataKey text = false) : False := by
      simp [isMetadata, shown, free] at metadata
    cases key with
    | scalar x =>
      cases x with
      | text s => exact ⟨s, rfl, metadata⟩
      | int n =>
        cases shown : (Atom.int n).render? with
        | none => simp [isMetadata, shown] at metadata
        | some text =>
          obtain ⟨digits, hn, rfl⟩ : ∃ digits, intText? n = some digits ∧ (digits : Text) = text :=
            Option.map_eq_some_iff.mp shown
          have free := dollar_notMem_intText n
          rw [← intText_of_intText? hn] at free
          exact (written shown (not_isMetadataKey free)).elim
      | float x => exact (written rfl (not_isMetadataKey (dollar_notMem_write x))).elim
    | null => exact (written rfl (by decide)).elim
    | bool b => cases b <;> exact (written rfl (by decide)).elim
    | date d => exact (written rfl (not_isMetadataKey (dollar_notMem_date d))).elim
    | moment t => exact (written rfl (not_isMetadataKey (dollar_notMem_moment t))).elim
    | clock c => exact (written rfl (not_isMetadataKey (dollar_notMem_clock c))).elim
    | octets bytes =>
      have first : isMetadataKey (Text.quoteOctets bytes) = false := by
        simp [isMetadataKey, Text.quoteOctets]
      exact (written rfl first).elim
  · rintro ⟨s, rfl, starts⟩
    exact starts

namespace Value

@[simp] theorem scalar?_strip (v : Value) : v.strip.scalar? = v.scalar? := by
  cases v <;> rfl

@[simp] theorem text?_strip (v : Value) : v.strip.text? = v.text? := by
  cases v <;> rfl

@[simp] theorem kind_strip (v : Value) : v.strip.kind = v.kind := by
  cases v <;> rfl

@[simp] theorem isVoid_strip (v : Value) : v.strip.isVoid = v.isVoid := by
  cases v <;> rfl

end Value

theorem stripItems_eq_map (items : List Value) : stripItems items = items.map Value.strip := by
  induction items with
  | nil => rfl
  | cons v vs ih => rw [stripItems, ih, List.map_cons]

/-- A key that is no metadata leads to the same value, stripped. -/
theorem get?_stripEntries (es : Entries) {key : Text} (plain : isMetadataKey key = false) :
    Entries.get? (stripEntries es) key = (Entries.get? es key).map Value.strip := by
  have kept : (Atom.text key).isMetadata = false := plain
  induction es with
  | nil => rfl
  | cons e rest ih =>
    obtain ⟨k, v⟩ := e
    rw [stripEntries]
    by_cases hk : k = .text key
    · simp [Entries.get?, hk, kept]
    · cases hm : k.isMetadata with
      | true => simpa [Entries.get?, hk] using ih
      | false => simpa [Entries.get?, hk] using ih

/-- What a mapping with a scalar value stands for is no metadata. -/
theorem wrapped_strip (es : Entries) :
    (Entries.get? (stripEntries es) valueKey).bind Value.scalar? =
      (Entries.get? es valueKey).bind Value.scalar? := by
  rw [get?_stripEntries es (by decide)]
  cases Entries.get? es valueKey <;> simp

theorem ofRole_strip (fonts : Value) : Finding.ofRole fonts.strip = Finding.ofRole fonts := by
  have stack (items : List Value) :
      Finding.ofRole (.list (stripItems items)) = Finding.ofRole (.list items) := by
    have same : (fun v : Value => v.text?.isNone) ∘ Value.strip = fun v => v.text?.isNone :=
      funext fun v => by simp
    have names : Value.text? ∘ Value.strip = Value.text? := funext fun v => by simp
    rw [Finding.ofRole, Finding.ofRole, stripItems_eq_map, List.find?_map, List.filterMap_map, same,
      names]
    cases items.find? fun v => v.text?.isNone with
    | none => rfl
    | some v => simp
  cases fonts with
  | atom a => rfl
  | list items => exact stack items
  | tuple items => exact stack items
  | set members => rfl
  | map entries => rfl

theorem ofDefault_strip (default : Value) : Visit.ofDefault default.strip = .ofDefault default := by
  rw [Visit.ofDefault, Visit.ofDefault, default.scalar?_strip]

theorem visitsUnder_of_isMetadata {key : Atom} (metadata : key.isMetadata = true)
    (visits : Text → List Visit) : visitsUnder key visits = [] := by
  rw [Atom.isMetadata] at metadata
  rw [visitsUnder]
  cases hk : key.render? with
  | none => simp [hk] at metadata
  | some text =>
    have hm : isMetadataKey text = true := by simpa [hk] using metadata
    simp only [hm, if_true]

theorem fontVisits_strip (es : List (Atom × Value)) :
    fontVisits (stripEntries es) = fontVisits es := by
  induction es with
  | nil => rfl
  | cons e rest ih =>
    obtain ⟨key, fonts⟩ := e
    rw [stripEntries, fontVisits]
    cases hm : key.isMetadata with
    | true =>
      rw [visitsUnder_of_isMetadata hm, List.nil_append]
      exact ih
    | false =>
      rw [if_neg Bool.false_ne_true, fontVisits, ih, ofRole_strip]

mutual

/-- A stripped value has the visits of the value: its shape is told by entries that are no metadata,
and the entries that are gone had no visits. -/
theorem visits_strip (key : Text) : ∀ v : Value, v.strip.visits key = v.visits key
  | .atom a => rfl
  | .list items => rfl
  | .tuple items => rfl
  | .set members => rfl
  | .map node => by
    rw [Value.strip, Value.visits, Value.visits, wrapped_strip node, get?_stripEntries node (by decide),
      fontVisits_strip, entryVisits_strip node]
    cases (Entries.get? node valueKey).bind Value.scalar? with
    | some s => rfl
    | none =>
      cases Entries.get? node defaultKey with
      | none => rfl
      | some default =>
        simp only [Option.map_some, ofDefault_strip]

theorem entryVisits_strip : ∀ es : List (Atom × Value),
    entryVisits (stripEntries es) = entryVisits es
  | [] => rfl
  | (key, v) :: rest => by
    rw [stripEntries, entryVisits]
    cases hm : key.isMetadata with
    | true =>
      rw [visitsUnder_of_isMetadata hm, List.nil_append]
      exact entryVisits_strip rest
    | false =>
      have same : (fun text => v.strip.visits text) = fun text => v.visits text :=
        funext fun text => visits_strip text v
      rw [if_neg Bool.false_ne_true, entryVisits, same, entryVisits_strip rest]

end

theorem flattenUnder_strip (base : Text) (doc : Document) :
    doc.strip.flattenUnder base = doc.flattenUnder base := by
  have same : doc.strip.visits = doc.visits := entryVisits_strip doc
  rw [flattenUnder_eq, flattenUnder_eq, Document.emissions, Document.emissions, same]

theorem at?_strip (v : Value) {steps : List Text}
    (plain : ∀ step ∈ steps, isMetadataKey step = false) :
    v.strip.at? steps = (v.at? steps).map Value.strip := by
  induction steps generalizing v with
  | nil => cases v <;> rfl
  | cons step rest ih =>
    cases v with
    | map es =>
      rw [Value.strip, Value.at?, Value.at?, get?_stripEntries es (plain step List.mem_cons_self)]
      cases Entries.get? es step with
      | none => rfl
      | some next => exact ih next fun s hs => plain s (List.mem_cons_of_mem _ hs)
    | atom a => rfl
    | list items => rfl
    | tuple items => rfl
    | set members => rfl

/-- No step of a dotted path is metadata. -/
def PlainPath (path : Text) : Prop := ∀ step ∈ Text.splitAt '.' path, isMetadataKey step = false

instance (path : Text) : Decidable (PlainPath path) :=
  inferInstanceAs (Decidable (∀ step ∈ Text.splitAt '.' path, isMetadataKey step = false))

theorem lookup_strip (doc : Document) (path : Text) (plain : PlainPath path) :
    doc.strip.lookup path = (doc.lookup path).map Value.strip :=
  at?_strip (.map doc) plain

theorem lookupScalar_strip (doc : Document) (path : Text) (plain : PlainPath path)
    (fallback : Scalar) : doc.strip.lookupScalar path fallback = doc.lookupScalar path fallback := by
  rw [Document.lookupScalar, Document.lookupScalar, lookup_strip doc path plain]
  cases doc.lookup path with
  | none => rfl
  | some v => simp only [Option.map_some, Value.isVoid_strip, Value.scalar?_strip, Value.kind_strip]

/-- Flattening and the four style sheets give the same result, or fail in the same way, on a document
and on what remains of it without metadata. -/
theorem metadata_is_invisible (doc : Document) :
    (∀ base, doc.strip.flattenUnder base = doc.flattenUnder base) ∧
      Sheet.generateBase doc.strip = Sheet.generateBase doc ∧
      Sheet.generateSlidev doc.strip = Sheet.generateSlidev doc ∧
      Sheet.generateReveal doc.strip = Sheet.generateReveal doc ∧
      Sheet.generateWebslides doc.strip = Sheet.generateWebslides doc := by
  have border : Sheet.Document.quoteBorder doc.strip = Sheet.Document.quoteBorder doc :=
    lookupScalar_strip doc "components.blockquote.borderWidth" (by decide) _
  refine ⟨fun base => flattenUnder_strip base doc, ?_, ?_, ?_, ?_⟩
  · rw [Sheet.generateBase, Sheet.generateBase, Document.flatten, flattenUnder_strip]
    rfl
  · simp only [Sheet.generateSlidev, border,
      lookupScalar_strip doc "slide.dimensions.slidev.width" (by decide),
      lookupScalar_strip doc "slide.dimensions.slidev.height" (by decide),
      lookupScalar_strip doc "slide.padding.slidev" (by decide)]
  · simp only [Sheet.generateReveal, border,
      lookupScalar_strip doc "slide.padding.reveal" (by decide)]
  · simp only [Sheet.generateWebslides, border,
      lookupScalar_strip doc "slide.padding.webslides" (by decide)]

end DesignTokens
