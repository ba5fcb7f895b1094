import DesignTokens.Proofs.Configuration
import DesignTokens.Proofs.Metadata

/-!
# Metadata in the utility configuration

The configuration copies groups of the document with the metadata in them. Stripping the document
strips its configuration, so the metadata keys next to the colours and to the font sizes are those
of the document. A metadata entry among the font sizes that is no size leaves the document without a
configuration.
-/

namespace DesignTokens

theorem stripEntries_append (es more : Entries) :
    stripEntries (es ++ more) = stripEntries es ++ stripEntries more := by
  induction es with
  | nil => rfl
  | cons e rest ih =>
    rw [List.cons_append, stripEntries, stripEntries, ih]
    split <;> rfl

/-- Replacing the value of a metadata entry is not seen. -/
theorem stripEntries_map_metadata (es : Entries) {s : Text} (v : Value)
    (metadata : (Atom.text s).isMetadata = true) :
    stripEntries (es.map fun e => if e.1.sameKey (.text s) then (e.1, v) else e) =
      stripEntries es := by
  induction es with
  | nil => rfl
  | cons e rest ih =>
    rw [List.map_cons, Atom.sameKey_text]
    by_cases he : e.1 = .text s
    · simp only [he, decide_true, if_true]
      rw [stripEntries, if_pos metadata, stripEntries, he, if_pos metadata, ih]
    · simp only [he, decide_false]
      rw [if_neg Bool.false_ne_true, stripEntries, stripEntries, ih]

theorem stripEntries_map_plain (es : Entries) (key : Atom) (v : Value) :
    stripEntries (es.map fun e => if e.1.sameKey key then (e.1, v) else e) =
      (stripEntries es).map fun e => if e.1.sameKey key then (e.1, v.strip) else e := by
  induction es with
  | nil => rfl
  | cons e rest ih =>
    obtain ⟨k, old⟩ := e
    rw [List.map_cons, stripEntries.eq_2 k old]
    cases same : k.sameKey key with
    | true =>
      simp only [if_true]
      rw [stripEntries, ih]
      split
      · rfl
      · rw [List.map_cons, same, if_pos rfl]
    | false =>
      simp only [Bool.false_eq_true, if_false]
      rw [stripEntries, ih]
      split
      · rfl
      · rw [List.map_cons, same, if_neg Bool.false_ne_true]

/-- A metadata key is the same key as no other. -/
theorem any_sameKey_stripEntries (es : Entries) {key : Atom} (plain : key.isMetadata = false) :
    ((stripEntries es).any fun e => e.1.sameKey key) = es.any fun e => e.1.sameKey key := by
  induction es with
  | nil => rfl
  | cons e rest ih =>
    rw [stripEntries, List.any_cons]
    by_cases hm : e.1.isMetadata = true
    · obtain ⟨s, he, -⟩ := e.1.isMetadata_iff.mp hm
      have other : key ≠ .text s := by
        rintro rfl
        rw [he, plain] at hm
        cases hm
      rw [if_pos hm, ih, he, Atom.text_sameKey, decide_eq_false other, Bool.false_or]
    · rw [if_neg hm, List.any_cons, ih]

theorem stripEntries_put (es : Entries) (key : Atom) (v : Value) :
    stripEntries (es.put key v) =
      if key.isMetadata then stripEntries es else Entries.put (stripEntries es) key v.strip := by
  cases hm : key.isMetadata with
  | true =>
    obtain ⟨s, rfl, -⟩ := key.isMetadata_iff.mp hm
    rw [if_pos rfl, Entries.put]
    split
    · exact stripEntries_map_metadata es v hm
    · rw [stripEntries_append, stripEntries, if_pos hm, stripEntries, List.append_nil]
  | false =>
    rw [if_neg Bool.false_ne_true, Entries.put, Entries.put, any_sameKey_stripEntries es hm]
    split
    · exact stripEntries_map_plain es key v
    · rw [stripEntries_append, stripEntries, hm, if_neg Bool.false_ne_true, stripEntries]

theorem stripEntries_putAll (es more : Entries) :
    stripEntries (es.putAll more) = Entries.putAll (stripEntries es) (stripEntries more) := by
  induction more generalizing es with
  | nil => rfl
  | cons e more ih =>
    have step : es.putAll (e :: more) = (es.put e.1 e.2).putAll more := rfl
    rw [step, ih, stripEntries_put, stripEntries]
    split <;> rfl

theorem group_strip (doc : Document) (path : Text) (plain : PlainPath path) :
    doc.strip.group path = stripEntries (doc.group path) := by
  rw [Document.group, Document.group, lookup_strip doc path plain]
  cases doc.lookup path with
  | none => rfl
  | some v => cases v <;> rfl

namespace UtilityConfig

theorem isSize_strip (v : Value) : isSize v.strip = isSize v := by
  cases v with
  | map es => rw [Value.strip, isSize, isSize, wrapped_strip es]
  | atom a => rfl
  | list items => rfl
  | tuple items => rfl
  | set members => rfl

theorem size_strip (v : Value) : size v.strip = (size v).strip := by
  cases v with
  | map es =>
    rw [Value.strip, size, size, wrapped_strip es]
    cases (Entries.get? es valueKey).bind Value.scalar? <;> rfl
  | atom a => rfl
  | list items => rfl
  | tuple items => rfl
  | set members => rfl

theorem all_isSize_strip (es : Entries) :
    ((stripEntries es).all fun e => isSize e.2) = es.all fun e => e.1.isMetadata || isSize e.2 := by
  induction es with
  | nil => rfl
  | cons e rest ih =>
    rw [stripEntries, List.all_cons]
    cases e.1.isMetadata with
    | true => rw [if_pos rfl, ih, Bool.true_or, Bool.true_and]
    | false => rw [if_neg Bool.false_ne_true, List.all_cons, ih, isSize_strip, Bool.false_or]

theorem map_size_strip (es : Entries) :
    (stripEntries es).map (fun e => (e.1, size e.2)) =
      stripEntries (es.map fun e => (e.1, size e.2)) := by
  induction es with
  | nil => rfl
  | cons e rest ih =>
    rw [List.map_cons, stripEntries, stripEntries]
    split
    · exact ih
    · rw [List.map_cons, ih, size_strip]

theorem pick_strip {names : List Text} (plain : ∀ name ∈ names, isMetadataKey name = false)
    (es : Entries) : pick names (stripEntries es) = stripEntries (pick names es) := by
  induction names with
  | nil => rfl
  | cons name names ih =>
    have kept : (Atom.text name).isMetadata = false := plain name List.mem_cons_self
    rw [pick, pick, List.filterMap_cons, List.filterMap_cons,
      get?_stripEntries es (plain name List.mem_cons_self)]
    have rest := ih fun n hn => plain n (List.mem_cons_of_mem _ hn)
    cases Entries.get? es name with
    | none => exact rest
    | some v =>
      simp only [Option.map_some]
      rw [stripEntries, kept, if_neg Bool.false_ne_true]
      exact congrArg _ rest

theorem present_strip {name : Text} (plain : isMetadataKey name = false) (v : Option Value) :
    present name (v.map Value.strip) = stripEntries (present name v) := by
  have kept : (Atom.text name).isMetadata = false := plain
  cases v with
  | none => rfl
  | some v =>
    cases v with
    | atom a => cases a <;> simp [present, stripEntries, Value.strip, kept]
    | list items => simp [present, stripEntries, Value.strip, kept]
    | tuple items => simp [present, stripEntries, Value.strip, kept]
    | set members => simp [present, stripEntries, Value.strip, kept]
    | map entries => simp [present, stripEntries, Value.strip, kept]

theorem sizeSection_strip (doc : Document) :
    sizeSection doc.strip = stripEntries (sizeSection doc) := by
  have kept : (Atom.text "fontSize").isMetadata = false := by decide
  rw [sizeSection, sizeSection, lookup_strip doc "typography.fontSize" (by decide)]
  cases doc.lookup "typography.fontSize" with
  | none => rfl
  | some v =>
    cases v with
    | map es =>
      simp only [Option.map_some, Option.bind_some, Value.strip, Value.entries?]
      rw [map_size_strip, stripEntries, kept, if_neg Bool.false_ne_true, stripEntries, Value.strip]
    | atom a => rfl
    | list items => rfl
    | tuple items => rfl
    | set members => rfl

theorem sections_strip (doc : Document) (ramps fonts : Entries) :
    sections doc.strip (stripEntries ramps) (stripEntries fonts) =
      stripEntries (sections doc ramps fonts) := by
  have colours : colors doc.strip (stripEntries ramps) = stripEntries (colors doc ramps) := by
    have semantic := group_strip doc "colors.semantic" (by decide)
    rw [Document.group, Document.group] at semantic
    rw [colors, colors, semantic, pick_strip (by decide), stripEntries_putAll]
  have kept (name : Text) (v : Value) (plain : (Atom.text name).isMetadata = false) (es : Entries) :
      stripEntries ((.text name, v) :: es) = (.text name, v.strip) :: stripEntries es := by
    rw [stripEntries, plain, if_neg Bool.false_ne_true]
  rw [sections, sections, stripEntries_append, stripEntries_append, stripEntries_append,
    sizeSection_strip, lookup_strip doc "borderRadius" (by decide),
    lookup_strip doc "shadows" (by decide), present_strip (by decide), present_strip (by decide),
    colours, pick_strip (by decide), kept _ _ (by decide), kept _ _ (by decide)]
  simp only [Value.strip, kept _ _ (by decide : (Atom.text "prsm").isMetadata = false)]
  rfl

theorem ofDocument_strip {doc : Document} {v : Value} (made : ofDocument doc = .ok v) :
    ofDocument doc.strip = .ok v.strip := by
  obtain ⟨ramps, fonts, hramps, hfonts, fit, rfl⟩ := (ofDocument_eq_ok_iff doc v).mp made
  refine (ofDocument_eq_ok_iff _ _).mpr ⟨stripEntries ramps, stripEntries fonts, ?_, ?_, ?_, ?_⟩
  · rw [lookup_strip doc "colors" (by decide), hramps]
    rfl
  · rw [lookup_strip doc "typography.fontFamily" (by decide), hfonts]
    rfl
  · rw [group_strip doc "typography.fontSize" (by decide), all_isSize_strip, List.all_eq_true]
    intro e he
    rw [List.all_eq_true.mp fit e he, Bool.or_true]
  · rw [sections_strip]
    rfl

/-- What the stripped document lacks to a configuration is that its metadata be font sizes. -/
theorem exists_ofDocument_iff (doc : Document) :
    (∃ v, ofDocument doc = .ok v) ↔ (∃ v, ofDocument doc.strip = .ok v) ∧
      ∀ e ∈ doc.group "typography.fontSize", e.1.isMetadata = true → isSize e.2 = true := by
  constructor
  · rintro ⟨v, made⟩
    obtain ⟨ramps, fonts, -, -, fit, -⟩ := (ofDocument_eq_ok_iff doc v).mp made
    exact ⟨⟨v.strip, ofDocument_strip made⟩, fun e he _ => List.all_eq_true.mp fit e he⟩
  · rintro ⟨⟨v, made⟩, metadata⟩
    obtain ⟨ramps, fonts, hramps, hfonts, fit, -⟩ := (ofDocument_eq_ok_iff _ v).mp made
    have mapping (path : Text) (plain : PlainPath path) {es : Entries}
        (found : doc.strip.lookup path = some (.map es)) :
        ∃ es', doc.lookup path = some (.map es') := by
      rw [lookup_strip doc path plain] at found
      obtain ⟨v, hv, same⟩ := Option.map_eq_some_iff.mp found
      cases v with
      | map es' => exact ⟨es', hv⟩
      | atom a => cases same
      | list items => cases same
      | tuple items => cases same
      | set members => cases same
    obtain ⟨ramps', hramps'⟩ := mapping "colors" (by decide) hramps
    obtain ⟨fonts', hfonts'⟩ := mapping "typography.fontFamily" (by decide) hfonts
    refine ⟨_, (ofDocument_eq_ok_iff doc _).mpr ⟨ramps', fonts', hramps', hfonts', ?_, rfl⟩⟩
    rw [group_strip doc "typography.fontSize" (by decide), all_isSize_strip,
      List.all_eq_true] at fit
    rw [List.all_eq_true]
    intro e he
    cases hm : e.1.isMetadata with
    | true => exact metadata e he hm
    | false => simpa [hm] using fit e he

theorem contains_pick {names : List Text} {es : Entries} {s : Text} (other : s ∉ names) :
    (pick names es).contains s = false := by
  rw [← Bool.not_eq_true, Entries.contains_iff, Entries.keys, pick]
  simp only [List.mem_map, List.mem_filterMap, Option.map_eq_some_iff, not_exists, not_and]
  rintro e ⟨name, hname, v, -, rfl⟩ same
  cases same
  exact other hname

theorem contains_colors (doc : Document) (ramps : Entries) {s : Text}
    (metadata : isMetadataKey s = true) :
    (colors doc ramps).contains s = (doc.group "colors.semantic").contains s := by
  have plain : ∀ name ∈ rampNames, isMetadataKey name = false := by decide
  have other : s ∉ rampNames := by
    intro hs
    rw [plain s hs] at metadata
    cases metadata
  have picked : ¬(pick rampNames ramps).contains s = true := by simp [contains_pick other]
  rw [Entries.contains_iff] at picked
  rw [Bool.eq_iff_iff, Entries.contains_iff, Entries.contains_iff, colors, Entries.mem_keys_putAll,
    Document.group, or_iff_right picked]

end UtilityConfig

/-- The entries of the mapping that steps lead to, none if there is no mapping. -/
def Value.groupAt (v : Value) (steps : List Text) : Entries :=
  ((v.at? steps).bind Value.entries?).getD []

namespace UtilityConfig

theorem groupAt_colors (doc : Document) (ramps fonts : Entries) :
    (Value.map (theme (sections doc ramps fonts))).groupAt ["theme", "extend", "colors", "prsm"] =
      colors doc ramps := rfl

theorem get?_sections_fontSize (doc : Document) (ramps fonts : Entries) :
    Entries.get? (sections doc ramps fonts) "fontSize" =
      Entries.get? (sizeSection doc) "fontSize" := by
  have absent {name : Text} (other : name ≠ "fontSize") (v : Option Value) :
      Entries.get? (present name v) "fontSize" = none := by
    unfold present
    split
    · rfl
    · rfl
    · simp [Entries.get?, other]
  have append (es more : Entries) : Entries.get? (es ++ more) "fontSize" =
      (Entries.get? es "fontSize").or (Entries.get? more "fontSize") := by
    rw [Entries.get?, Entries.get?, Entries.get?, List.find?_append]
    cases es.find? fun e => e.1 = .text "fontSize" <;> rfl
  have front : Entries.get? [(.text "colors", .map [(.text "prsm", .map (colors doc ramps))]),
      (.text "fontFamily", .map (pick roleNames fonts))] "fontSize" = none := rfl
  rw [sections, append, append, append, front, absent (by decide), absent (by decide),
    Option.none_or, Option.or_none, Option.or_none]

theorem groupAt_fontSize (doc : Document) (ramps fonts : Entries) :
    (Value.map (theme (sections doc ramps fonts))).groupAt ["theme", "extend", "fontSize"] =
      (doc.group "typography.fontSize").map fun e => (e.1, size e.2) := by
  have found : (Value.map (theme (sections doc ramps fonts))).at? ["theme", "extend", "fontSize"] =
      Entries.get? (sections doc ramps fonts) "fontSize" := by
    have steps : (Value.map (theme (sections doc ramps fonts))).at? ["theme", "extend", "fontSize"] =
        (Value.map (sections doc ramps fonts)).at? ["fontSize"] := rfl
    rw [steps, Value.at?]
    cases Entries.get? (sections doc ramps fonts) "fontSize" with
    | none => rfl
    | some v => cases v <;> rfl
  rw [Value.groupAt, found, get?_sections_fontSize, sizeSection, Document.group]
  cases (doc.lookup "typography.fontSize").bind Value.entries? <;> rfl

theorem contains_map_size (es : Entries) (s : Text) :
    Entries.contains (es.map fun e => (e.1, size e.2)) s = es.contains s := by
  rw [Bool.eq_iff_iff, Entries.contains_iff, Entries.contains_iff, Entries.keys, Entries.keys,
    List.map_map]
  rfl

/-- A document has a configuration just if what remains of it without metadata has one and the
metadata among its font sizes are font sizes too. The configuration of what remains is then what
remains of the configuration; the metadata keys next to the colours are those of the semantic
colours, and the ones next to the font sizes those of the document's. -/
theorem config_holds_metadata (doc : Document) :
    ((∃ v, ofDocument doc = .ok v) ↔ (∃ v, ofDocument doc.strip = .ok v) ∧
      ∀ e ∈ doc.group "typography.fontSize", e.1.isMetadata = true → isSize e.2 = true) ∧
    ∀ v, ofDocument doc = .ok v → ofDocument doc.strip = .ok v.strip ∧
      ∀ s, isMetadataKey s = true →
        (v.groupAt ["theme", "extend", "colors", "prsm"]).contains s =
          (doc.group "colors.semantic").contains s ∧
        (v.groupAt ["theme", "extend", "fontSize"]).contains s =
          (doc.group "typography.fontSize").contains s := by
  refine ⟨exists_ofDocument_iff doc, fun v made => ⟨ofDocument_strip made, fun s metadata => ?_⟩⟩
  obtain ⟨ramps, fonts, -, -, -, rfl⟩ := (ofDocument_eq_ok_iff doc v).mp made
  constructor
  · rw [groupAt_colors]
    exact contains_colors doc ramps metadata
  · rw [groupAt_fontSize]
    exact contains_map_size _ s

end UtilityConfig

/-- Notes stand next to the semantic colours and the font sizes, one of them with a scalar value. -/
def Document.annotated : Document :=
  [(.text "colors", .map [(.text "primary", .map [(.text "$note", .text "brand")]),
      (.text "semantic", .map [(.text "$note", .text "states"), (.text "error", .text "#f00")])]),
    (.text "typography", .map [(.text "fontFamily", .map []),
      (.text "fontSize", .map [(.text "$scale", .map [(.text "value", .int 2)]),
        (.text "base", .map [(.text "value", .text "1rem")])])])]

theorem config_holds_metadata_annotated :
    ∃ v, UtilityConfig.ofDocument .annotated = .ok v ∧
      UtilityConfig.ofDocument Document.annotated.strip = .ok v.strip ∧
      (v.groupAt ["theme", "extend", "colors", "prsm"]).contains "$note" = true ∧
      (v.groupAt ["theme", "extend", "fontSize"]).contains "$scale" = true ∧
      (v.groupAt ["theme", "extend", "fontSize"]).contains "$note" = false := by
  have found := UtilityConfig.config_holds_metadata .annotated
  obtain ⟨v, made⟩ : ∃ v, UtilityConfig.ofDocument .annotated = .ok v := ⟨_, rfl⟩
  obtain ⟨stripped, shown⟩ := found.2 v made
  have note := shown "$note" (by decide)
  have scale := shown "$scale" (by decide)
  exact ⟨v, made, stripped, note.1.trans (by rfl), scale.2.trans (by rfl), note.2.trans (by rfl)⟩

/-- A note next to the semantic colours, and one next to the font sizes. -/
def Document.noted : Document :=
  [(.text "colors", .map [(.text "semantic", .map [(.text "$note", .text "states")])]),
    (.text "typography", .map [(.text "fontFamily", .map [])])]

def Document.notedSizes : Document :=
  [(.text "colors", .map []), (.text "typography", .map [(.text "fontFamily", .map []),
    (.text "fontSize", .map [(.text "$note", .map [(.text "unit", .text "rem")])])])]

/-- One note gets into the configuration, the other leaves the document without one, although it
would have one without the note. -/
theorem notes_reach_config :
    (∃ v, UtilityConfig.ofDocument .noted = .ok v ∧
      (v.groupAt ["theme", "extend", "colors", "prsm"]).contains "$note" = true) ∧
    UtilityConfig.ofDocument .notedSizes =
      .error (.malformed "typography-fontSize-$note" .fontSizeValue) ∧
    ∃ v, UtilityConfig.ofDocument Document.notedSizes.strip = .ok v :=
  ⟨⟨_, rfl, rfl⟩, rfl, _, rfl⟩

end DesignTokens
