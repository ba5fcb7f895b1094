import DesignTokens.Proofs.Positions

/-!
# Paths are taken apart

In a plainly spelt document the pieces of a path in the flat map are the keys of one position, and
the flat map has on the path what is read at that position.
-/

namespace DesignTokens

open FlatMap (ofEmissions)

/-- A role of a family of fonts reads as the scalar it is or as the font stack of its names. -/
inductive Value.ReadsAsFonts : Value → Scalar → Prop
  | scalar (s : Scalar) : ReadsAsFonts (.scalar s) s
  | list (names : List Text) :
      ReadsAsFonts (.list (names.map .text)) (.text (Text.intercalate ", " (names.map fontName)))
  | tuple (names : List Text) :
      ReadsAsFonts (.tuple (names.map .text)) (.text (Text.intercalate ", " (names.map fontName)))

/-- A mapping that is no wrapper. -/
def Entries.Unwrapped (node : Entries) : Prop := ∀ s, node.get? valueKey ≠ some (.scalar s)

/-- A scalar is read at a position below a value that stands under a key: it is the value itself, the
`value` of a wrapper, the `DEFAULT` of a group, a role of a family of fonts, or is read further below.
Wrappers hide what else is in them, and metadata is not read. -/
inductive Value.Reads : Text → Value → List Atom → Scalar → Prop
  | scalar (name : Text) (s : Scalar) : Reads name (.scalar s) [] s
  | wrapper {name : Text} {node : Entries} {s : Scalar}
      (wrapped : node.get? valueKey = some (.scalar s)) : Reads name (.map node) [] s
  | default {name : Text} {node : Entries} {s : Scalar} (unwrapped : node.Unwrapped)
      (promoted : node.get? defaultKey = some (.scalar s)) : Reads name (.map node) [] s
  | entry {name text : Text} {node : Entries} {key : Atom} {v : Value} {position : List Atom}
      {s : Scalar} (unwrapped : node.Unwrapped)
      (noFonts : name ≠ fontFamilyKey ∨ (node.get? defaultKey).isSome)
      (here : (key, v) ∈ node) (written : key.render? = some text)
      (plain : isMetadataKey text = false) (below : Reads text v position s) :
      Reads name (.map node) (key :: position) s
  | role {text : Text} {node : Entries} {key : Atom} {fonts : Value} {s : Scalar}
      (unwrapped : node.Unwrapped) (noDefault : node.get? defaultKey = none)
      (here : (key, fonts) ∈ node) (written : key.render? = some text)
      (plain : isMetadataKey text = false) (reads : fonts.ReadsAsFonts s) :
      Reads fontFamilyKey (.map node) [key] s

/-- A scalar is read at a position of a document, which is not classified itself. -/
inductive Document.Reads (doc : Document) : List Atom → Scalar → Prop
  | entry {text : Text} {key : Atom} {v : Value} {position : List Atom} {s : Scalar}
      (here : (key, v) ∈ doc) (written : key.render? = some text)
      (plain : isMetadataKey text = false) (below : v.Reads text position s) :
      Reads doc (key :: position) s

/-- The texts of the keys of a position. -/
def Spells (position : List Atom) (keys : List Text) : Prop :=
  List.Forall₂ (fun key text => Atom.render? key = some text) position keys

theorem unwrapped_iff (node : Entries) :
    node.Unwrapped ↔ (node.get? valueKey).bind Value.scalar? = none := by
  unfold Entries.Unwrapped
  cases node.get? valueKey with
  | none => simp
  | some v =>
    rw [Option.bind_some, Option.eq_none_iff_forall_ne_some]
    refine forall_congr' fun s => not_congr ⟨?_, fun scalar => ?_⟩
    · rintro same
      rw [Option.some.inj same]
      rfl
    · rw [Value.eq_of_scalar?_eq_some scalar]

/-- A list makes a font stack if all its items are names. -/
theorem names_of_find?_eq_none {items : List Value}
    (none : (items.find? fun v => v.text?.isNone) = none) :
    items = (items.filterMap Value.text?).map .text := by
  induction items with
  | nil => rfl
  | cons v rest ih =>
    rw [List.find?_cons] at none
    cases hv : v.text? with
    | none => simp [hv] at none
    | some name =>
      have text : v = .text name := by
        unfold Value.text? at hv
        split at hv
        · rw [Option.some.inj hv]
        · cases hv
      simp only [hv, Option.isNone_some] at none
      rw [List.filterMap_cons_some hv, List.map_cons, ← ih none, text]

theorem ofRole_names (names : List Text) :
    Finding.ofRole (.list (names.map .text)) =
      .token (.text (Text.intercalate ", " (names.map fontName))) := by
  have all : ((names.map Value.text).find? fun v => v.text?.isNone) = none := by
    simp [List.find?_eq_none]
  have read : (names.map Value.text).filterMap Value.text? = names := by
    rw [List.filterMap_map]
    exact List.filterMap_some
  rw [Finding.ofRole, all, read]

theorem ofRole_eq_token_iff (fonts : Value) (s : Scalar) :
    Finding.ofRole fonts = .token s ↔ fonts.ReadsAsFonts s := by
  have stack {items : List Value} (found : Finding.ofRole (.list items) = .token s) :
      ∃ names : List Text, items = names.map .text ∧
        s = .text (Text.intercalate ", " (names.map fontName)) := by
    rw [Finding.ofRole] at found
    cases none : items.find? fun v => v.text?.isNone with
    | some v => simp [none] at found
    | none =>
      rw [none] at found
      exact ⟨_, names_of_find?_eq_none none, (Finding.token.inj found).symm⟩
  constructor
  · intro found
    cases fonts with
    | atom a =>
      cases a with
      | scalar t =>
        obtain rfl := Finding.token.inj found
        exact .scalar t
      | null | bool b | date d | moment t | clock c | octets bytes => cases found
    | list items =>
      obtain ⟨names, rfl, rfl⟩ := stack found
      exact .list names
    | tuple items =>
      obtain ⟨names, rfl, rfl⟩ := @stack items found
      exact .tuple names
    | set members | map entries => cases found
  · intro reads
    cases reads with
    | scalar => rfl
    | list names => exact ofRole_names names
    | tuple names => exact ofRole_names names

theorem mem_fontVisits_iff (es : Entries) (keys : List Text) (s : Scalar) :
    ⟨keys, .token s⟩ ∈ fontVisits es ↔
      ∃ step, keys = [step] ∧ isMetadataKey step = false ∧
        ∃ e ∈ es, e.1.render? = some step ∧ e.2.ReadsAsFonts s := by
  have here (keys : List Text) (fonts : Value) :
      ⟨keys, .token s⟩ ∈ [Visit.here (.ofRole fonts)] ↔ keys = [] ∧ fonts.ReadsAsFonts s := by
    rw [List.mem_singleton, Visit.here, Visit.mk.injEq, ← ofRole_eq_token_iff]
    exact and_congr_right fun _ => eq_comm
  simp only [fontVisits_eq_flatMap, List.mem_flatMap, token_mem_visitsUnder_iff, here]
  constructor
  · rintro ⟨e, he, step, _, rfl, written, plain, rfl, reads⟩
    exact ⟨step, rfl, plain, e, he, written, reads⟩
  · rintro ⟨step, rfl, plain, e, he, written, reads⟩
    exact ⟨e, he, step, [], rfl, written, plain, rfl, reads⟩

theorem Atom.reads_of_mem_visits {a : Atom} {name : Text} {keys : List Text} {s : Scalar}
    (visited : ⟨keys, .token s⟩ ∈ (Value.atom a).visits name) :
    ∃ position, (Value.atom a).Reads name position s ∧ Spells position keys := by
  cases a with
  | scalar t =>
    simp only [Value.visits, Visit.here, List.mem_singleton, Visit.mk.injEq, Finding.token.injEq]
      at visited
    obtain ⟨rfl, rfl⟩ := visited
    exact ⟨[], .scalar name s, .nil⟩
  | null | bool b | date d | moment t | clock c | octets bytes =>
    simp [Value.visits, Visit.here] at visited

theorem Visit.eq_of_ofDefault {default : Value} {keys : List Text} {s : Scalar}
    (visited : ⟨keys, .token s⟩ = Visit.ofDefault default) :
    keys = [] ∧ default = .atom (.scalar s) := by
  cases hs : default.scalar? with
  | none => simp [Visit.ofDefault, hs] at visited
  | some t =>
    simp only [Visit.ofDefault, hs, Visit.here, Visit.mk.injEq, Finding.token.injEq] at visited
    obtain ⟨rfl, rfl⟩ := visited
    exact ⟨rfl, Value.eq_of_scalar?_eq_some hs⟩

theorem Value.reads_of_mem_visits (keys : List Text) {v : Value} {name : Text} {s : Scalar}
    (visited : ⟨keys, .token s⟩ ∈ v.visits name) :
    ∃ position, v.Reads name position s ∧ Spells position keys := by
  cases v with
  | atom a => exact Atom.reads_of_mem_visits visited
  | list items | tuple items | set members => simp [visits, Visit.here] at visited
  | map node =>
    have inside (unwrapped : Entries.Unwrapped node)
        (noFonts : name ≠ fontFamilyKey ∨ (Entries.get? node defaultKey).isSome)
        (visited : ⟨keys, .token s⟩ ∈ entryVisits node) :
        ∃ position, (Value.map node).Reads name position s ∧ Spells position keys := by
      obtain ⟨step, rest, rfl, plain, e, he, written, below⟩ :=
        (mem_entryVisits_iff node keys s).mp visited
      obtain ⟨position, reads, spells⟩ := reads_of_mem_visits rest below
      exact ⟨e.1 :: position, .entry unwrapped noFonts he written plain reads, .cons written spells⟩
    rw [visits] at visited
    cases hw : (Entries.get? node valueKey).bind scalar? with
    | some t =>
      simp only [hw, Visit.here, List.mem_singleton, Visit.mk.injEq, Finding.token.injEq] at visited
      obtain ⟨rfl, rfl⟩ := visited
      obtain ⟨w, found, scalar⟩ := Option.bind_eq_some_iff.mp hw
      exact ⟨[], .wrapper (eq_of_scalar?_eq_some scalar ▸ found), .nil⟩
    | none =>
      have unwrapped := (unwrapped_iff node).mpr hw
      rw [hw] at visited
      cases hd : Entries.get? node defaultKey with
      | some default =>
        rw [hd] at visited
        rcases List.mem_cons.mp visited with first | visited
        · obtain ⟨rfl, rfl⟩ := Visit.eq_of_ofDefault first
          exact ⟨[], .default unwrapped hd, .nil⟩
        · exact inside unwrapped (Or.inr (by simp [hd])) visited
      | none =>
        rw [hd] at visited
        by_cases fonts : name = fontFamilyKey
        · simp only [fonts, if_true] at visited
          obtain ⟨step, rfl, plain, e, he, written, reads⟩ := (mem_fontVisits_iff node keys s).mp visited
          exact ⟨[e.1], fonts ▸ .role unwrapped hd he written plain reads, .cons written .nil⟩
        · simp only [fonts, if_false] at visited
          exact inside unwrapped (Or.inl fonts) visited
termination_by keys.length

theorem Value.mem_visits_of_reads {v : Value} {name : Text} {position : List Atom} {s : Scalar}
    (reads : v.Reads name position s) {keys : List Text} (spells : Spells position keys) :
    ⟨keys, .token s⟩ ∈ v.visits name := by
  induction reads generalizing keys with
  | scalar name s =>
    cases spells
    exact List.mem_singleton_self _
  | wrapper wrapped =>
    cases spells
    rw [visits, wrapped]
    exact List.mem_singleton_self _
  | @default name node s unwrapped promoted =>
    cases spells
    rw [visits, (unwrapped_iff node).mp unwrapped, promoted]
    exact List.mem_cons_self
  | @entry name text node key v position s unwrapped noFonts here written plain _ ih =>
    cases spells with
    | cons spelt rest =>
      obtain rfl := Option.some.inj (written.symm.trans spelt)
      have inside := (mem_entryVisits_iff node _ s).mpr
        ⟨text, _, rfl, plain, (key, v), here, written, ih rest⟩
      rw [visits, (unwrapped_iff node).mp unwrapped]
      cases hd : Entries.get? node defaultKey with
      | some default => exact List.mem_cons_of_mem _ inside
      | none =>
        have noFonts : name ≠ fontFamilyKey := noFonts.resolve_right (by simp [hd])
        simpa only [noFonts, if_false] using inside
  | @role text node key fonts s unwrapped noDefault here written plain reads =>
    cases spells with
    | cons spelt rest =>
      cases rest
      obtain rfl := Option.some.inj (written.symm.trans spelt)
      rw [visits, (unwrapped_iff node).mp unwrapped, noDefault]
      simp only [if_true]
      exact (mem_fontVisits_iff node _ s).mpr ⟨text, rfl, plain, (key, fonts), here, written, reads⟩

/-- What is read at the positions of a document is what the walk of flattening finds there. -/
theorem Document.mem_visits_iff_reads (doc : Document) (keys : List Text) (s : Scalar) :
    ⟨keys, .token s⟩ ∈ doc.visits ↔ ∃ position, doc.Reads position s ∧ Spells position keys := by
  rw [visits, mem_entryVisits_iff]
  constructor
  · rintro ⟨step, rest, rfl, plain, e, he, written, below⟩
    obtain ⟨position, reads, spells⟩ := Value.reads_of_mem_visits rest below
    exact ⟨e.1 :: position, .entry he written plain reads, .cons written spells⟩
  · rintro ⟨position, reads, spells⟩
    cases reads with
    | @entry text key v position s here written plain below =>
      cases spells with
      | cons spelt rest =>
        obtain rfl := Option.some.inj (written.symm.trans spelt)
        exact ⟨text, _, rfl, plain, (key, v), here, written, Value.mem_visits_of_reads below rest⟩

theorem SpeltEntries.value {es : Entries} (spelt : SpeltEntries es) {e : Atom × Value} (he : e ∈ es) :
    e.2.Spelt := by
  induction es with
  | nil => cases he
  | cons first rest ih =>
    obtain ⟨key, v⟩ := first
    rw [SpeltEntries] at spelt
    rcases List.mem_cons.mp he with rfl | he
    · exact spelt.2.1
    · exact ih spelt.2.2 he

/-- The text of a key that is no metadata tells its entry. -/
theorem SpeltEntries.unique {es : Entries} (spelt : SpeltEntries es) {e e' : Atom × Value}
    (he : e ∈ es) (he' : e' ∈ es) {text : Text} (plain : isMetadataKey text = false)
    (written : e.1.render? = some text) (written' : e'.1.render? = some text) : e = e' := by
  induction es with
  | nil => cases he
  | cons first rest ih =>
    obtain ⟨key, v⟩ := first
    rw [SpeltEntries] at spelt
    obtain ⟨own, -, others⟩ := spelt
    rcases List.mem_cons.mp he with rfl | he <;> rcases List.mem_cons.mp he' with rfl | he'
    · rfl
    · exact absurd written' ((own text written plain).2 e' he')
    · exact absurd written ((own text written' plain).2 e he)
    · exact ih others he he'

/-- Positions that are read at and spelt alike are the same. -/
theorem Value.Reads.position_unique {v : Value} {name : Text} {position : List Atom} {s : Scalar}
    (reads : v.Reads name position s) (spelt : v.Spelt) {position' : List Atom} {s' : Scalar}
    (reads' : v.Reads name position' s') {keys : List Text} (spells : Spells position keys)
    (spells' : Spells position' keys) : position = position' := by
  induction reads generalizing position' keys with
  | scalar | wrapper | default =>
    cases spells
    cases spells'
    rfl
  | @entry name text node key v position s unwrapped noFonts here written plain below ih =>
    rw [Value.Spelt] at spelt
    cases spells with
    | cons first rest =>
      cases spells' with
      | @cons key' _ _ _ first' rest' =>
        obtain rfl := Option.some.inj (written.symm.trans first)
        cases reads' with
        | @entry _ text' _ _ v' position' s' unwrapped' noFonts' here' written' plain' below' =>
          cases spelt.unique here here' plain written first'
          obtain rfl := Option.some.inj (written.symm.trans written')
          rw [ih (spelt.value here) below' rest rest']
        | role unwrapped' noDefault =>
          simp [noDefault] at noFonts
  | @role text node key fonts s unwrapped noDefault here written plain reads =>
    rw [Value.Spelt] at spelt
    cases spells with
    | cons first rest =>
      cases rest
      cases spells' with
      | cons first' rest' =>
        cases rest'
        cases reads' with
        | entry unwrapped' noFonts' => simp [noDefault] at noFonts'
        | role _ _ here' =>
          obtain rfl := Option.some.inj (written.symm.trans first)
          cases spelt.unique here here' plain written first'
          rfl

theorem Document.Reads.position_unique {doc : Document} (spelt : doc.Spelt)
    {position position' : List Atom} {s s' : Scalar} (reads : doc.Reads position s)
    (reads' : doc.Reads position' s') {keys : List Text} (spells : Spells position keys)
    (spells' : Spells position' keys) : position = position' := by
  cases reads with
  | entry here written plain below =>
    cases reads' with
    | entry here' written' plain' below' =>
      cases spells with
      | cons first rest =>
        cases spells' with
        | cons first' rest' =>
          obtain rfl := Option.some.inj (written.symm.trans first)
          obtain rfl := Option.some.inj (first'.symm.trans written')
          cases SpeltEntries.unique spelt here here' plain written written'
          rw [below.position_unique (SpeltEntries.value spelt here) below' rest rest']

theorem mem_emissions_iff (doc : Document) (base path : Text) (s : Scalar) :
    (path, s) ∈ doc.emissions base ↔
      ∃ keys, ⟨keys, .token s⟩ ∈ doc.visits ∧ path = keys.foldl joinPath base :=
  mem_filterMap_emission?_iff doc.visits base path s

/-- The flat map of a plainly spelt document is the list of its emissions. -/
theorem flat_eq_emissions {base : Text} {doc : Document} {flat : FlatMap} (spelt : doc.Spelt)
    (flattened : doc.flattenUnder base = .ok flat) : flat = doc.emissions base := by
  rw [((flattenUnder_eq_ok_iff base doc flat).mp flattened).2]
  exact (ofEmissions_eq_self_iff _).mpr (nodup_paths_of_spelt base spelt)

/-- The keys of a visited token are the pieces of its path. -/
theorem splitAt_path {doc : Document} (spelt : doc.Spelt) {keys : List Text} {s : Scalar}
    (visited : ⟨keys, .token s⟩ ∈ doc.visits) (path : Text) :
    path = keys.foldl joinPath "" ↔ Text.splitAt '-' path = keys := by
  have good := goodPositions_entries doc spelt
  have position : keys ∈ positions doc.visits :=
    List.mem_filterMap.mpr ⟨⟨keys, .token s⟩, visited, rfl⟩
  obtain ⟨key, rest, cons, -⟩ := good.heads keys position
  have some_ : keys ≠ [] := cons ▸ List.cons_ne_nil key rest
  have pieces := pieces_path some_ (good.plain keys position)
  have texts : Text.ofList ∘ Text.toList = id := rfl
  constructor
  · rintro rfl
    rw [Text.splitAt, pieces, List.map_map, texts, List.map_id]
  · rintro rfl
    have letters : Text.toList ∘ Text.ofList = id := rfl
    rw [Text.splitAt, List.map_map, letters, List.map_id] at pieces
    exact (Text.toList_inj.mp (Text.pieces_injective pieces)).symm

/-- The entries of the flat map of a plainly spelt document are the readings at its positions: taken
apart at its dashes, a path is the keys of exactly one position at which something is read, and the
flat map has under the path what is read there. -/
theorem flat_paths_are_positions {doc : Document} {flat : FlatMap} (spelt : doc.Spelt)
    (flattened : doc.flatten = .ok flat) (path : Text) (s : Scalar) :
    (path, s) ∈ flat ↔ ∃ position, doc.Reads position s ∧
      Spells position (Text.splitAt '-' path) ∧
      ∀ position' s', doc.Reads position' s' → Spells position' (Text.splitAt '-' path) →
        position' = position ∧ s' = s := by
  have entries (t : Scalar) : (path, t) ∈ flat ↔ ⟨Text.splitAt '-' path, .token t⟩ ∈ doc.visits := by
    rw [flat_eq_emissions spelt flattened, mem_emissions_iff]
    constructor
    · rintro ⟨keys, visited, joined⟩
      rwa [(splitAt_path spelt visited path).mp joined]
    · exact fun visited => ⟨_, visited, (splitAt_path spelt visited path).mpr rfl⟩
  have nodup : (flat.map Prod.fst).Nodup := by
    rw [flat_eq_emissions spelt flattened]
    exact nodup_paths_of_spelt "" spelt
  rw [entries, doc.mem_visits_iff_reads]
  constructor
  · rintro ⟨position, reads, spells⟩
    refine ⟨position, reads, spells, fun position' s' reads' spells' => ?_⟩
    have here := (entries s).mpr ((doc.mem_visits_iff_reads _ s).mpr ⟨position, reads, spells⟩)
    have here' := (entries s').mpr ((doc.mem_visits_iff_reads _ s').mpr ⟨position', reads', spells'⟩)
    have value : some s' = some s :=
      (lookup_of_mem nodup here').symm.trans (lookup_of_mem nodup here)
    exact ⟨reads'.position_unique spelt reads spells' spells, Option.some.inj value⟩
  · rintro ⟨position, reads, spells, -⟩
    exact ⟨position, reads, spells⟩

/-- A group with a default, a key that is a truth value and a note, a font stack and a wrapper. -/
def Document.branded : Document :=
  [(.text "colors", .map [(.text "DEFAULT", .text "#11f"), (.bool true, .text "#00f"),
      (.text "$a-b", .null)]),
    (.text "fontFamily", .map [(.text "sans", .list [.text "Open Sans", .text "serif"])]),
    (.text "gap", .map [(.text "unit", .null), (.text "value", .text "1rem")])]

def brandedFlat : FlatMap :=
  [("colors", .text "#11f"), ("colors-DEFAULT", .text "#11f"), ("colors-True", .text "#00f"),
    ("fontFamily-sans", .text "\"Open Sans\", serif"), ("gap", .text "1rem")]

theorem flat_paths_are_positions_branded :
    Document.branded.Spelt ∧ Document.branded.flatten = .ok brandedFlat ∧
      ∃ position, Document.branded.Reads position (.text "#00f") ∧
        Spells position [("colors" : Text), "True"] ∧
        ∀ position' s', Document.branded.Reads position' s' → Spells position' ["colors", "True"] →
          position' = position ∧ s' = .text "#00f" := by
  have spelt : Document.branded.Spelt := by
    simp [Document.Spelt, Document.branded, SpeltEntries, Value.Spelt, PlainKey, Atom.render?,
      Atom.inner?, Scalar.render?, isMetadataKey]
  have flattened : Document.branded.flatten = .ok brandedFlat := by rfl
  have entry : (("colors-True" : Text), Scalar.text "#00f") ∈ brandedFlat := by decide
  exact ⟨spelt, flattened, (flat_paths_are_positions spelt flattened "colors-True" _).mp entry⟩

end DesignTokens
