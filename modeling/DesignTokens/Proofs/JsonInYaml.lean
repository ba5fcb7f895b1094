import DesignTokens.Proofs.FlowNodes
import DesignTokens.Proofs.JsonFiles
import DesignTokens.Proofs.SpellingReading

/-!
# JSON files as YAML files

A text of JSON that holds a collection is a text of YAML with the same collections and names in the
same places, if its characters and the places of its colons suit YAML. The two values are equal if
every word means the same in both notations and no character is written as two codes.
-/

namespace DesignTokens

namespace Json

/-- A piece of a string that is not the codes of two surrogates. -/
def Piece.isSingle : Piece → Bool
  | .pair _ _ _ _ => false
  | _ => true

/-- Both notations give the leaves of a spelling the same values. -/
structure Spelling.Alike (sp : Spelling) : Prop where
  words : ∀ w ∈ sp.words, w.isCommon
  strings : ∀ ps ∈ sp.strings, ∀ p ∈ ps, p.isSingle

theorem units_of_isSingle {p : Piece} (single : p.isSingle) : p.units = [p.letter] := by
  cases p with
  | plain _ _ _ _ | escape _ _ _ | unit _ => rfl
  | pair _ _ _ _ => cases single

theorem Spelling.Alike.value_eq {sp : Spelling} (alike : sp.Alike) :
    sp.value Yaml.leaves = sp.value leaves := by
  refine Spelling.value_congr sp (fun w hw => if_pos (alike.words w hw)) fun ps hps => ?_
  have same : ps.flatMap Piece.units = ps.map Piece.letter := by
    rw [List.map_eq_flatMap]
    exact List.flatMap_congr fun p hp => units_of_isSingle (alike.strings ps hps p hp)
  exact congrArg Text.ofList same

/-- A mapping is spelled between braces. -/
theorem Spelling.exists_map {sp : Spelling} {es : Entries} (value : sp.value leaves = .map es) :
    sp.isWord = false ∧ ∀ l, ∃ es', sp.value l = .map es' := by
  cases sp with
  | word w =>
    cases w with
    | named name v known =>
      simp only [Json.words, List.mem_cons, Prod.mk.injEq, List.not_mem_nil, or_false] at known
      rcases known with ⟨-, rfl⟩ | ⟨-, rfl⟩ | ⟨-, rfl⟩ | ⟨-, rfl⟩ | ⟨-, rfl⟩ | ⟨-, rfl⟩ <;> cases value
    | number n => cases value
  | quoted _ | emptyList _ | list _ => cases value
  | emptyMap _ | map _ => exact ⟨rfl, fun _ => ⟨_, rfl⟩⟩

/-- A spelling of a text keeps to what YAML reads: the characters, and the places of the colons. -/
structure Spelling.Suits (sp : Spelling) (cs : List Char) : Prop where
  portable : ∀ c ∈ cs, Yaml.isPortable c
  near : ∀ n ∈ sp.names, n.Near

end Json

namespace Yaml

/-- A text of JSON, other than a word, is read with its leaves as YAML has them. -/
theorem parse_of_spells {sp : Json.Spelling} {cs : List Char} (spells : sp.Spells cs)
    (suits : sp.Suits cs) (collection : sp.isWord = false) : parse cs = .ok (sp.value leaves) := by
  obtain ⟨before, behind, rfl⟩ := spells.text
  obtain ⟨n, g, read, denotes⟩ := document_eq sp
  rw [parse, tokens_eq collection suits.near suits.portable, read]
  exact Graph.value_of_denotes denotes

end Yaml

/-- The text of a file, with line ends made alike. -/
def FileTree.HasText (t : FileTree) (file : Path) (cs : List Char) : Prop :=
  ∃ octets stored, t.read file = .ok octets ∧ Text.Utf8.decode octets = .ok stored ∧
    Text.normalizeNewlines stored = cs

theorem FileTree.load_of_hasText {t : FileTree} {file : Path} {cs : List Char} (text : t.HasText file cs)
    {es : Entries} : t.load file = .ok es ↔ parseAs file cs = .ok (.map es) := by
  obtain ⟨octets, stored, read, decoded, rfl⟩ := text
  rw [FileTree.load, read]
  dsimp only
  rw [parseDocument, decoded]
  dsimp only
  cases parseAs file (Text.normalizeNewlines stored) with
  | error e => simp
  | ok v => cases v <;> simp

theorem parseAs_yaml {file : Path} (yaml : file.isYaml) {cs : List Char} {v : Value} :
    parseAs file cs = .ok v ↔ Yaml.parse cs = .ok v := by
  rw [parseAs, if_pos yaml]
  cases Yaml.parse cs with
  | ok v' => simp
  | error fault => cases fault <;> simp

/-- What is loaded from a JSON file has a spelling. Whatever spelling its text has, if that suits YAML
then a YAML file with the same octets is loaded too, as the value that the spelling has there; and where
the leaves are alike, as the same document. -/
theorem FileTree.load_yaml_of_json {t : FileTree} {json yaml : Path} {doc : Document}
    (isJson : json.isYaml = false) (isYaml : yaml.isYaml) (same : t.read yaml = t.read json)
    (loaded : t.load json = .ok doc) :
    ∃ cs, t.HasText json cs ∧ (∃ sp : Json.Spelling, sp.Spells cs) ∧
      ∀ sp : Json.Spelling, sp.Spells cs → sp.Suits cs →
        (∃ doc', sp.value Yaml.leaves = .map doc' ∧ t.load yaml = .ok doc') ∧
          (sp.Alike → t.load yaml = .ok doc) := by
  obtain ⟨octets, stored, parsed⟩ := (t.load_eq_ok_iff json doc).mp loaded
  obtain ⟨chars, decoded, read⟩ := (parseDocument_json isJson).mp parsed
  obtain ⟨sp, spells, -⟩ := (Json.parse_eq_ok_iff _ _).mp read
  refine ⟨_, ⟨octets, chars, stored, decoded, rfl⟩, ⟨sp, spells⟩, fun sp spells suits => ?_⟩
  have text : t.HasText yaml (Text.normalizeNewlines chars) :=
    ⟨octets, chars, same.trans stored, decoded, rfl⟩
  have value : sp.value Json.leaves = .map doc :=
    Except.ok.inj (((Json.parse_eq_ok_iff _ _).mpr ⟨sp, spells, rfl⟩).symm.trans read)
  obtain ⟨collection, maps⟩ := Json.Spelling.exists_map value
  have yaml {es : Entries} (h : sp.value Yaml.leaves = .map es) : t.load yaml = .ok es := by
    refine (FileTree.load_of_hasText text).mpr ((parseAs_yaml isYaml).mpr ?_)
    rw [Yaml.parse_of_spells spells suits collection, h]
  obtain ⟨doc', hdoc'⟩ := maps Yaml.leaves
  exact ⟨⟨doc', hdoc', yaml hdoc'⟩, fun alike => yaml (alike.value_eq.trans value)⟩

theorem FileTree.HasText.unique {t : FileTree} {file : Path} {cs cs' : List Char}
    (text : t.HasText file cs) (text' : t.HasText file cs') : cs' = cs := by
  obtain ⟨octets, stored, read, decoded, rfl⟩ := text
  obtain ⟨octets', stored', read', decoded', rfl⟩ := text'
  cases Except.ok.inj (read.symm.trans read')
  cases Except.ok.inj (decoded.symm.trans decoded')
  rfl

/-- A mapping of one number. -/
def Json.Spelling.ofNumber (n : Json.Numeral) : Json.Spelling :=
  .map (.last ⟨⟨[], nofun⟩, [.plain 'a' (by decide) (by decide) (by decide)], ⟨[], nofun⟩,
    ⟨[' '], by simp [Json.isSpace]⟩⟩ (.word (.number n)) ⟨[], nofun⟩)

theorem Json.isLetter_lower : 'e' = 'e' ∨ 'e' = 'E' := Or.inl rfl

/-- The number `1.5e+5`. -/
def Json.Numeral.signed : Json.Numeral :=
  ⟨false, ['1'], ['5'], some ⟨'e', some false, ['5'], Json.isLetter_lower, by simp, by simp⟩,
    ⟨by simp, Or.inr ⟨'1', [], rfl, by decide⟩⟩, by simp, nofun⟩

/-- The number `1e5`. -/
def Json.Numeral.bare : Json.Numeral :=
  ⟨false, ['1'], [], some ⟨'e', none, ['5'], Json.isLetter_lower, by simp, by simp⟩,
    ⟨by simp, Or.inr ⟨'1', [], rfl, by decide⟩⟩, by simp, nofun⟩

def Path.twinJson : Path := ⟨.working, ["v.json"]⟩

def Path.twinYaml : Path := ⟨.working, ["v.yaml"]⟩

/-- Two files with the same octets. -/
def FileTree.twins (cs : List Char) : FileTree :=
  ⟨[(["v.json"], .file (Text.Utf8.encode cs) 1), (["v.yaml"], .file (Text.Utf8.encode cs) 1)], [], [], 1⟩

theorem FileTree.hasText_twins {cs : List Char} (free : '\r' ∉ cs) :
    (FileTree.twins cs).HasText .twinJson cs ∧ (FileTree.twins cs).HasText .twinYaml cs := by
  have ends := Text.normalizeNewlines_of_notMem free
  exact ⟨⟨_, cs, rfl, Text.Utf8.decode_encode cs, ends⟩, ⟨_, cs, rfl, Text.Utf8.decode_encode cs, ends⟩⟩

theorem Json.Spelling.ofNumber_spells (n : Json.Numeral) :
    (Json.Spelling.ofNumber n).Spells (Json.Spelling.ofNumber n).text where
  text := ⟨⟨[], nofun⟩, ⟨[], nofun⟩, by simp⟩
  parted := List.forall_mem_singleton.mpr (.singleton _)

/-- A number does not keep its mapping from being read as YAML. -/
theorem Json.Spelling.ofNumber_suits (n : Json.Numeral) :
    (Json.Spelling.ofNumber n).Suits (Json.Spelling.ofNumber n).text where
  portable := by
    have text : (Json.Spelling.ofNumber n).text =
        ['\x7b', '"', 'a', '"', ':', ' '] ++ (n.text ++ ['\x7d']) := rfl
    have frame : ['\x7b', '"', 'a', '"', ':', ' '].all Yaml.isPortable := by decide
    have number : Json.numberChars.all Yaml.isPortable := by decide
    rw [text]
    refine List.forall_mem_append.mpr ⟨List.all_eq_true.mp frame, List.forall_mem_append.mpr ⟨?_, ?_⟩⟩
    · exact fun c hc => List.all_eq_true.mp number c (n.chars c hc)
    · exact List.forall_mem_singleton.mpr rfl
  near := List.forall_mem_singleton.mpr ⟨by simp, by simp [Json.quotedText, Json.Piece.text]⟩

theorem FileTree.hasText_ofNumber (n : Json.Numeral) :
    (FileTree.twins (Json.Spelling.ofNumber n).text).HasText .twinJson (Json.Spelling.ofNumber n).text ∧
      (FileTree.twins (Json.Spelling.ofNumber n).text).HasText .twinYaml (Json.Spelling.ofNumber n).text :=
  FileTree.hasText_twins fun mem => by cases (Json.Spelling.ofNumber_suits n).portable _ mem

theorem FileTree.load_json_ofNumber (n : Json.Numeral) :
    (FileTree.twins (Json.Spelling.ofNumber n).text).load .twinJson =
      .ok [(.text "a", .scalar n.value)] := by
  have read := (Json.parse_eq_ok_iff _ _).mpr ⟨_, Json.Spelling.ofNumber_spells n, rfl⟩
  exact (FileTree.load_of_hasText (FileTree.hasText_ofNumber n).1).mpr ((parseAs_json (by decide)).mpr read)

theorem FileTree.load_yaml_ofNumber (n : Json.Numeral) :
    (FileTree.twins (Json.Spelling.ofNumber n).text).load .twinYaml =
      .ok [(.text "a", (Json.Word.number n).plain)] := by
  have read := Yaml.parse_of_spells (Json.Spelling.ofNumber_spells n) (Json.Spelling.ofNumber_suits n) rfl
  exact (FileTree.load_of_hasText (FileTree.hasText_ofNumber n).2).mpr ((parseAs_yaml (by decide)).mpr read)

theorem load_yaml_of_json_signed :
    Path.twinJson.isYaml = false ∧ Path.twinYaml.isYaml ∧
      (FileTree.twins (Json.Spelling.ofNumber .signed).text).read .twinYaml =
        (FileTree.twins (Json.Spelling.ofNumber .signed).text).read .twinJson ∧
      (FileTree.twins (Json.Spelling.ofNumber .signed).text).load .twinJson =
        .ok [(.text "a", .scalar Json.Numeral.signed.value)] ∧
      (FileTree.twins (Json.Spelling.ofNumber .signed).text).load .twinYaml =
        .ok [(.text "a", .scalar Json.Numeral.signed.value)] := by
  have isJson : Path.twinJson.isYaml = false := by decide
  have isYaml : Path.twinYaml.isYaml := by decide
  have same : (FileTree.twins (Json.Spelling.ofNumber .signed).text).read .twinYaml =
      (FileTree.twins (Json.Spelling.ofNumber .signed).text).read .twinJson := rfl
  have loaded := FileTree.load_json_ofNumber .signed
  obtain ⟨cs, text, -, agree⟩ := FileTree.load_yaml_of_json isJson isYaml same loaded
  obtain rfl := text.unique (FileTree.hasText_ofNumber .signed).1
  have alike : (Json.Spelling.ofNumber .signed).Alike :=
    ⟨List.forall_mem_singleton.mpr rfl,
      List.forall_mem_singleton.mpr (List.forall_mem_singleton.mpr rfl)⟩
  refine ⟨isJson, isYaml, same, loaded, ?_⟩
  exact (agree _ (Json.Spelling.ofNumber_spells .signed) (Json.Spelling.ofNumber_suits .signed)).2 alike

/-- An exponent without a point and a sign makes a number of JSON a text of YAML. -/
theorem bareExponent_becomes_text :
    (FileTree.twins "\x7b\"a\": 1e5\x7d".toList).load .twinJson =
        .ok [(.text "a", .float (.ofDecimal false 1 5))] ∧
      (FileTree.twins "\x7b\"a\": 1e5\x7d".toList).load .twinYaml = .ok [(.text "a", .text "1e5")] := by
  have spelled : "\x7b\"a\": 1e5\x7d".toList = (Json.Spelling.ofNumber .bare).text := by decide
  rw [spelled]
  have value : Json.Numeral.bare.value = .float (.ofDecimal false 1 5) := by
    have digits : Json.decimal ['1'] = 1 := by decide
    have power : Json.decimal ['5'] = 5 := by decide
    simp [Json.Numeral.value, Json.Numeral.bare, Json.Power.value, digits, power]
  have plain : (Json.Word.number .bare).plain = .text "1e5" := if_neg (by decide)
  have json := FileTree.load_json_ofNumber .bare
  have yaml := FileTree.load_yaml_ofNumber .bare
  rw [value] at json
  rw [plain] at yaml
  exact ⟨json, yaml⟩

end DesignTokens
