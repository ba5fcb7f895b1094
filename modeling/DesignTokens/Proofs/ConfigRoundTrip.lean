import DesignTokens.Proofs.Configuration
import DesignTokens.Proofs.JsonFiles

/-!
# The configuration is read back

The configuration of a document from a JSON file is made of parts of the document under the names of
its sections, so it is a value of JSON itself. Its text stands in the configuration module, and a JSON
file with that text is loaded as the configuration.
-/

namespace DesignTokens

namespace Value

theorem entries?_eq_some_iff {v : Value} {es : Entries} : v.entries? = some es ↔ v = .map es := by
  cases v <;> simp [entries?]

/-- An entry that a mapping of JSON may have. -/
def EntryOfJson (e : Atom × Value) : Prop := (∃ name, e.1 = .text name) ∧ e.2.OfJson

theorem entryOfJson_text (name : Text) {v : Value} (ofJson : v.OfJson) :
    EntryOfJson (.text name, v) := ⟨⟨name, rfl⟩, ofJson⟩

namespace OfJson

theorem of_entries {es : Entries} (entries : ∀ e ∈ es, EntryOfJson e) (distinct : es.keys.Nodup) :
    (Value.map es).OfJson :=
  .map (fun e he => (entries e he).1) distinct fun e he => (entries e he).2

theorem entries {es : Entries} (ofJson : (Value.map es).OfJson) : ∀ e ∈ es, EntryOfJson e := by
  cases ofJson with
  | map texts distinct all =>
    intro e he
    exact ⟨texts e he, all e he⟩

theorem keys_nodup {es : Entries} (ofJson : (Value.map es).OfJson) : es.keys.Nodup := by
  cases ofJson with
  | map texts distinct all => exact distinct

theorem single (name : Text) {v : Value} (ofJson : v.OfJson) :
    (Value.map [(.text name, v)]).OfJson := by
  apply of_entries
  · intro e he
    rw [List.mem_singleton.mp he]
    exact entryOfJson_text name ofJson
  · exact List.nodup_singleton _

theorem get? {es : Entries} (ofJson : (Value.map es).OfJson) {name : Text} {v : Value}
    (found : Entries.get? es name = some v) : v.OfJson := by
  obtain ⟨e, he, rfl⟩ := Option.map_eq_some_iff.mp found
  exact (ofJson.entries e (List.mem_of_find?_eq_some he)).2

theorem at? {v : Value} (ofJson : v.OfJson) {steps : List Text} {u : Value}
    (found : v.at? steps = some u) : u.OfJson := by
  induction steps generalizing v with
  | nil => exact Option.some.inj found ▸ ofJson
  | cons step rest ih =>
    unfold Value.at? at found
    split at found
    · rename_i es
      split at found
      · rename_i next hnext
        exact ih (ofJson.get? hnext) found
      · cases found
    · cases found

theorem entriesAt {doc : Document} (ofJson : (Value.map doc).OfJson) {path : Text}
    {es : Entries} (found : (doc.lookup path).bind Value.entries? = some es) :
    (Value.map es).OfJson := by
  obtain ⟨v, there, mapping⟩ := Option.bind_eq_some_iff.mp found
  rw [entries?_eq_some_iff] at mapping
  exact mapping ▸ ofJson.at? there

theorem putAll {es more : Entries} (ofJson : (Value.map es).OfJson)
    (entries : ∀ e ∈ more, EntryOfJson e) : (Value.map (es.putAll more)).OfJson := by
  induction more generalizing es with
  | nil => exact ofJson
  | cons e more ih =>
    obtain ⟨⟨name, key⟩, value⟩ := entries e List.mem_cons_self
    have first : (Value.map (es.put e.1 e.2)).OfJson := by
      rw [key]
      exact ofJson.put value name
    exact ih first fun e' he' => entries e' (List.mem_cons_of_mem _ he')

end OfJson

end Value

namespace UtilityConfig

open Value

theorem keys_pick_sublist (names : List Text) (es : Entries) :
    (pick names es).keys.Sublist (names.map Atom.text) := by
  induction names with
  | nil => exact List.Sublist.slnil
  | cons name names ih =>
    cases found : es.get? name with
    | none => simpa [pick, found] using ih.cons (.text name)
    | some v => simpa [pick, found, Entries.keys] using ih.cons_cons (.text name)

theorem ofJson_pick {es : Entries} (ofJson : (Value.map es).OfJson) {names : List Text}
    (distinct : names.Nodup) : (Value.map (pick names es)).OfJson := by
  apply OfJson.of_entries
  · intro e he
    obtain ⟨name, -, hname⟩ := List.mem_filterMap.mp he
    obtain ⟨v, found, rfl⟩ := Option.map_eq_some_iff.mp hname
    exact ⟨⟨name, rfl⟩, ofJson.get? found⟩
  · have texts : (names.map Atom.text).Nodup := by
      apply distinct.map
      intro s t same
      simpa using same
    exact (keys_pick_sublist names es).nodup texts

theorem ofJson_colors {doc : Document} (ofJson : (Value.map doc).OfJson) {ramps : Entries}
    (ofRamps : (Value.map ramps).OfJson) : (Value.map (colors doc ramps)).OfJson := by
  have picked := ofJson_pick ofRamps (show rampNames.Nodup by decide)
  unfold colors
  cases found : (doc.lookup "colors.semantic").bind Value.entries? with
  | none => exact picked
  | some es => exact picked.putAll (ofJson.entriesAt found).entries

theorem ofJson_size {v : Value} (ofJson : v.OfJson) : (size v).OfJson := by
  cases v with
  | map es =>
    rw [size]
    cases (Entries.get? es valueKey).bind Value.scalar? with
    | none => exact ofJson
    | some s => exact .scalar s
  | atom a => exact ofJson
  | list items => exact ofJson
  | tuple items => exact ofJson
  | set members => exact ofJson

theorem ofJson_sizes {es : Entries} (ofJson : (Value.map es).OfJson) :
    (Value.map (es.map fun e => (e.1, size e.2))).OfJson := by
  apply OfJson.of_entries
  · intro e he
    obtain ⟨e', he', rfl⟩ := List.mem_map.mp he
    obtain ⟨text, value⟩ := ofJson.entries e' he'
    exact ⟨text, ofJson_size value⟩
  · rw [Entries.keys, List.map_map]
    exact ofJson.keys_nodup

theorem entries_sizeSection {doc : Document} (ofJson : (Value.map doc).OfJson) :
    ∀ e ∈ sizeSection doc, EntryOfJson e := by
  intro e he
  unfold sizeSection at he
  split at he
  · rename_i es found
    rw [List.mem_singleton.mp he]
    exact entryOfJson_text _ (ofJson_sizes (ofJson.entriesAt found))
  · cases he

theorem entries_present {doc : Document} (ofJson : (Value.map doc).OfJson) (name path : Text) :
    ∀ e ∈ present name (doc.lookup path), EntryOfJson e := by
  intro e he
  unfold present at he
  split at he
  · cases he
  · cases he
  · rename_i v _ found
    rw [List.mem_singleton.mp he]
    exact entryOfJson_text name (ofJson.at? found)

theorem keys_sizeSection_sublist (doc : Document) :
    (sizeSection doc).keys.Sublist [.text "fontSize"] := by
  unfold sizeSection
  split
  · exact List.Sublist.refl _
  · exact List.nil_sublist _

theorem keys_present_sublist (name : Text) (v : Option Value) :
    (present name v).keys.Sublist [.text name] := by
  unfold present
  split
  · exact List.nil_sublist _
  · exact List.nil_sublist _
  · exact List.Sublist.refl _

theorem ofJson_sections {doc : Document} (ofJson : (Value.map doc).OfJson) {ramps fonts : Entries}
    (ofRamps : (Value.map ramps).OfJson) (ofFonts : (Value.map fonts).OfJson) :
    (Value.map (sections doc ramps fonts)).OfJson := by
  have nested := OfJson.single "prsm" (ofJson_colors ofJson ofRamps)
  apply OfJson.of_entries
  · intro e he
    simp only [sections, List.mem_append, List.mem_cons, List.not_mem_nil, or_false] at he
    rcases he with (((rfl | rfl) | sized) | rounded) | shaded
    · exact entryOfJson_text _ nested
    · exact entryOfJson_text _ (ofJson_pick ofFonts (by decide))
    · exact entries_sizeSection ofJson e sized
    · exact entries_present ofJson _ _ e rounded
    · exact entries_present ofJson _ _ e shaded
  · have names : (sections doc ramps fonts).keys.Sublist [.text "colors", .text "fontFamily",
        .text "fontSize", .text "borderRadius", .text "boxShadow"] := by
      simp only [sections, Entries.keys, List.map_append]
      exact (((List.Sublist.refl [Atom.text "colors", .text "fontFamily"]).append
        (keys_sizeSection_sublist doc)).append (keys_present_sublist _ _)).append
        (keys_present_sublist _ _)
    exact names.nodup (by decide)

/-- The configuration of a document of JSON is a mapping of JSON. -/
theorem ofJson_ofDocument {doc : Document} (ofJson : (Value.map doc).OfJson) {v : Value}
    (made : ofDocument doc = .ok v) : ∃ config, v = .map config ∧ v.OfJson := by
  obtain ⟨ramps, fonts, hramps, hfonts, -, rfl⟩ := (ofDocument_eq_ok_iff doc v).mp made
  have inside := ofJson_sections ofJson (ofJson.at? hramps) (ofJson.at? hfonts)
  exact ⟨_, rfl, .single "theme" (.single "extend" inside)⟩

theorem generate_eq_ok_iff (doc : Document) (text : Text) :
    generate doc = .ok text ↔ ∃ config written, ofDocument doc = .ok config ∧
      Json.write config = .ok written ∧ text = moduleText written := by
  unfold generate
  cases ofDocument doc with
  | error fault => simp
  | ok config =>
    cases hw : Json.write config with
    | error r => simp [hw]
    | ok written => simp [hw, eq_comm]

/-- For every document loaded from a JSON file that has a configuration module, the module is its
header, the assignment and the text of the configuration, and every JSON file that holds this text is
loaded as the configuration: with the keys in their order at every level, and with the same texts,
whole numbers and doubles. Only a text with a surrogate in it cannot be held by a file. -/
theorem config_is_read_back {t : FileTree} {source : Path} {doc : Document} {text : Text}
    (json : source.isYaml = false) (loaded : t.load source = .ok doc)
    (generated : generate doc = .ok text) :
    ∃ (config : Entries) (written : Text), ofDocument doc = .ok (.map config) ∧
      text = Sheet.bannerText header ++ "\nmodule.exports = " ++ written ++ ";\n" ∧
      ((∃ octets, written.encode = .ok octets) ↔ ∀ l ∈ written.toList, l.isSurrogate = false) ∧
      ∀ (t' : FileTree) (file : Path), file.isYaml = false → t'.Holds file written →
        t'.load file = .ok config := by
  obtain ⟨v, written, made, hwritten, rfl⟩ := (generate_eq_ok_iff doc text).mp generated
  obtain ⟨config, rfl, ofJson⟩ := ofJson_ofDocument (FileTree.ofJson_load json loaded) made
  refine ⟨config, Text.ofList written, made, rfl, Text.exists_octets_iff, ?_⟩
  rintro t' file json' ⟨octets, encoded, stored⟩
  exact FileTree.load_of_written ofJson hwritten json' encoded stored

end UtilityConfig

/-- A tree whose only file holds these octets. -/
def FileTree.holding (octets : List UInt8) : FileTree :=
  ⟨[(["tokens.json"], .file octets 1)], [], [], 1⟩

def Path.held : Path := ⟨.working, ["tokens.json"]⟩

theorem FileTree.holds_holding {text : Text} {octets : List UInt8}
    (encoded : text.encode = .ok octets) : (holding octets).Holds .held text :=
  ⟨octets, encoded, rfl⟩

/-- A document with escapes, a repeated key, empty parts, a long number and doubles of all kinds. -/
def Text.oddDocument : List Char :=
  ["\x7b\"colors\": \x7b\"primary\": \"\\\"\\\\\\u0001\\ud83d\\ude00\\/\", ".toList,
    "\"semantic\": \x7b\"z\": [], \"a\": \x7b\x7d, \"z\": -0.0\x7d\x7d, ".toList,
    "\"typography\": \x7b\"fontFamily\": \x7b\"sans\": [NaN, -Infinity]\x7d, ".toList,
    "\"fontSize\": \x7b\"base\": \x7b\"value\": 1.5e-7\x7d\x7d\x7d, ".toList,
    "\"shadows\": 123456789012345678901234567890\x7d".toList].flatten

theorem config_is_read_back_odd :
    ∃ doc text config written octets,
      (FileTree.holding (Text.Utf8.encode Text.oddDocument)).load .held = .ok doc ∧
      UtilityConfig.generate doc = .ok text ∧ UtilityConfig.ofDocument doc = .ok (.map config) ∧
      text = Sheet.bannerText UtilityConfig.header ++ "\nmodule.exports = " ++ written ++ ";\n" ∧
      written.encode = .ok octets ∧ (FileTree.holding octets).load .held = .ok config := by
  have json : Path.held.isYaml = false := by decide +kernel
  have runs : ((FileTree.holding (Text.Utf8.encode Text.oddDocument)).load
      .held).toOption.bind (fun doc => (UtilityConfig.generate doc).toOption.map fun text =>
        text.toList.all fun l => !l.isSurrogate) = some true := by decide +kernel
  obtain ⟨doc, loaded, runs⟩ := Option.bind_eq_some_iff.mp runs
  obtain ⟨text, generated, plain⟩ := Option.map_eq_some_iff.mp runs
  obtain ⟨config, written, made, whole, encodable, back⟩ :=
    UtilityConfig.config_is_read_back json (eq_ok_of_toOption loaded) (eq_ok_of_toOption generated)
  obtain ⟨octets, encoded⟩ := encodable.mpr fun l hl => by
    have known : l ∈ text.toList := by
      rw [whole]
      simp [hl]
    simpa using List.all_eq_true.mp plain l known
  exact ⟨doc, text, config, written, octets, eq_ok_of_toOption loaded, eq_ok_of_toOption generated,
    made, whole, encoded, back _ .held json (FileTree.holds_holding encoded)⟩

/-- A document with one half of a pair of surrogates. -/
def Text.halfDocument : List Char :=
  ["\x7b\"colors\": \x7b\"primary\": \"\\ud800\"\x7d, ".toList,
    "\"typography\": \x7b\"fontFamily\": \x7b\x7d\x7d\x7d".toList].flatten

/-- The configuration of a document with a surrogate in it has a text that no file can hold: whatever
octets are read, they are not decoded to it. -/
theorem surrogate_is_not_read_back :
    ∃ doc text config written,
      (FileTree.holding (Text.Utf8.encode Text.halfDocument)).load .held = .ok doc ∧
      UtilityConfig.generate doc = .ok text ∧ UtilityConfig.ofDocument doc = .ok (.map config) ∧
      text = Sheet.bannerText UtilityConfig.header ++ "\nmodule.exports = " ++ written ++ ";\n" ∧
      ∀ octets cs, Text.Utf8.decode octets = .ok cs → Text.ofChars cs ≠ written := by
  have json : Path.held.isYaml = false := by decide +kernel
  have runs : ((FileTree.holding (Text.Utf8.encode Text.halfDocument)).load
      .held).toOption.bind (fun doc => (UtilityConfig.generate doc).toOption.map fun text =>
        text.toList.any Letter.isSurrogate) = some true := by decide +kernel
  obtain ⟨doc, loaded, runs⟩ := Option.bind_eq_some_iff.mp runs
  obtain ⟨text, generated, half⟩ := Option.map_eq_some_iff.mp runs
  obtain ⟨config, written, made, whole, -, -⟩ :=
    UtilityConfig.config_is_read_back json (eq_ok_of_toOption loaded) (eq_ok_of_toOption generated)
  refine ⟨doc, text, config, written, eq_ok_of_toOption loaded, eq_ok_of_toOption generated, made,
    whole, ?_⟩
  rintro octets cs - rfl
  obtain ⟨l, known, surrogate⟩ := List.any_eq_true.mp half
  simp only [whole, Text.toList_append, Text.toList_ofString, Text.toList_ofChars, List.mem_append,
    List.mem_map] at known
  -- Every letter of the module is a character.
  rcases known with ((⟨_, -, rfl⟩ | ⟨_, -, rfl⟩) | ⟨_, -, rfl⟩) | ⟨_, -, rfl⟩ <;> cases surrogate

end DesignTokens
