import DesignTokens.Proofs.BaseSheet
import DesignTokens.Proofs.JsonRoundTrip
import DesignTokens.Proofs.TokenPaths

/-!
# The colours of inline styles

Inline styles are read from the document, while the base style sheet declares the flat map. Both
show the same colours as long as the token of a colour is a scalar by itself, is no double that is a
whole number, and stands in no wrapper. Any other token that is there is shown by the inline style
in another way than by the declaration.
-/

namespace DesignTokens

/-- A double that is a whole number. -/
def Scalar.IsWhole (s : Scalar) : Prop := ∃ x n, s = .float x ∧ Binary64.toInt? x = some n

namespace Notation

theorem point_mem_positional (digits : List Char) (n : Int) : '.' ∈ positional digits n := by
  unfold positional
  split
  · simp
  · split <;> simp

theorem mark_mem_exponential (f : Notation) (digits : List Char) (e : Int) :
    f.exponentMark ∈ f.exponential digits e := by
  simp [exponential]

/-- The text of a finite double has a point or an exponent. -/
theorem pointed_magnitude (f : Notation) (rank : Nat) :
    '.' ∈ f.magnitude rank ∨ f.exponentMark ∈ f.magnitude rank := by
  unfold magnitude
  split
  · exact Or.inl (by decide)
  · dsimp only
    split
    · exact Or.inl (point_mem_positional _ _)
    · exact Or.inr (mark_mem_exponential f _ _)

end Notation

/-- A whole number is never written like the double of that value. -/
theorem write_ne_intText {x : Binary64} {n m : Int} (whole : x.toInt? = some n) :
    plain.write x ≠ intText m := by
  intro same
  have plainDigits (c : Char) (shown : c ∈ (plain.write x).toList) : c.isDigit ∨ c = '-' :=
    mem_intText (same ▸ shown)
  cases x with
  | nan => cases whole
  | signed negative rank =>
    by_cases top : rank.val = Binary64.top
    · simp [Binary64.toInt?, Binary64.toRatio?, top] at whole
    · have shown (c : Char) (hc : c ∈ plain.magnitude rank.val) :
          c ∈ (plain.write (.signed negative rank)).toList := by
        simp only [Notation.write, top, if_false, String.toList_append, String.toList_ofList]
        exact List.mem_append_right _ hc
      rcases plain.pointed_magnitude rank.val with point | mark
      · exact absurd (plainDigits _ (shown _ point)) (by decide)
      · exact absurd (plainDigits _ (shown _ mark)) (by decide)

/-- A scalar that has a text is written alike in a declaration, unless it is a whole double. -/
theorem css?_eq_iff {s : Scalar} {text : Text} (shown : s.render? = some text) :
    (Value.scalar s).css? = some text ↔ ¬ s.IsWhole := by
  cases s with
  | text u => simpa [Value.css?, Value.render?, Atom.render?, Scalar.IsWhole] using shown
  | int n => simpa [Value.css?, Value.render?, Atom.render?, Scalar.IsWhole] using shown
  | float x =>
    obtain rfl : (plain.write x : Text) = text := Option.some.inj shown
    cases whole : x.toInt? with
    | none => simp [Value.css?, whole, Scalar.IsWhole]
    | some n =>
      have differ := write_ne_intText (m := n) whole
      simp [Value.css?, whole, Scalar.IsWhole, Ne.symm differ]

theorem escapeChar_length (q c : Char) : 0 < (Text.escapeChar q c).length := by
  unfold Text.escapeChar
  split_ifs <;> simp

theorem escapeLetter_length (q : Char) (l : Letter) : 0 < (Text.escapeLetter q l).length := by
  cases l with
  | char c => exact escapeChar_length q c
  | surrogate n => exact Nat.succ_pos _

theorem lt_length_quote (s : Text) : s.toList.length < (Text.quote s).toList.length := by
  have longer (q : Char) (letters : List Letter) :
      letters.length ≤ (letters.flatMap (Text.escapeLetter q)).length := by
    induction letters with
    | nil => simp
    | cons l rest ih =>
      have one := escapeLetter_length q l
      simp only [List.flatMap_cons, List.length_append, List.length_cons]
      omega
  have inner := longer (Text.chooseQuote s.toList) s.toList
  simp only [Text.quote, String.toList_ofList, List.length_cons, List.length_append, List.length_nil]
  omega

theorem length_le_intercalate {texts : List String} {t : String} (ht : t ∈ texts) :
    t.toList.length ≤ (", ".intercalate texts).toList.length := by
  rw [String.toList_intercalate]
  induction texts with
  | nil => cases ht
  | cons first rest ih =>
    cases rest with
    | nil =>
      obtain rfl := List.mem_singleton.mp ht
      simp
    | cons second more =>
      rw [List.map_cons, List.map_cons, List.intercalate_cons_of_ne_nil (by simp),
        List.length_append, List.length_append]
      rcases List.mem_cons.mp ht with rfl | later
      · omega
      · have below := ih later
        rw [List.map_cons] at below
        omega

/-- The text of an entry has the text of its value in it. -/
theorem exists_entry_text {es : Entries} {texts : List String} (shown : innerEntries es = some texts)
    {e : Atom × Value} (he : e ∈ es) :
    ∃ key value, e.2.inner? = some value ∧ key ++ ": " ++ value ∈ texts := by
  induction es generalizing texts with
  | nil => cases he
  | cons first rest ih =>
    obtain ⟨k, v⟩ := first
    rw [innerEntries] at shown
    obtain ⟨key, -, shown⟩ := Option.bind_eq_some_iff.mp shown
    obtain ⟨value, hv, shown⟩ := Option.bind_eq_some_iff.mp shown
    obtain ⟨others, hothers, done⟩ := Option.bind_eq_some_iff.mp shown
    obtain rfl := Option.some.inj done
    rcases List.mem_cons.mp he with rfl | later
    · exact ⟨key, value, hv, List.mem_cons_self⟩
    · obtain ⟨key', value', hv', inside⟩ := ih hothers later
      exact ⟨key', value', hv', List.mem_cons_of_mem _ inside⟩

/-- A mapping that collapses to a scalar is not written like it: its text starts with a brace, and
has the text of the scalar in quotes. -/
theorem css?_ne_of_map {node : Entries} {s : Scalar} {text : Text}
    (token : (Value.map node).token? = some s) (shown : (Value.map node).render? = some text) :
    (Value.scalar s).css? ≠ some text := by
  obtain ⟨whole, joined, rfl⟩ := Option.map_eq_some_iff.mp (show
    ((innerEntries node).map (enclosed "\x7b" "\x7d")).map Text.ofString = some text from shown)
  obtain ⟨texts, entries, rfl⟩ := Option.map_eq_some_iff.mp joined
  have brace : '\x7b' ∈ (enclosed "\x7b" "\x7d" texts).toList := by simp [enclosed]
  intro same
  cases s with
  | int n =>
    obtain ⟨digits, hn, css⟩ : ∃ digits, intText? n = some digits ∧
        (digits : Text) = enclosed "\x7b" "\x7d" texts := Option.map_eq_some_iff.mp same
    rw [intText_of_intText? hn, Text.ofString_inj] at css
    exact absurd (IsNumeral.intText n _ (css ▸ brace)) (by decide)
  | float x =>
    have css : IsNumeral (enclosed "\x7b" "\x7d" texts) := by
      rw [← Text.ofString_inj.mp (Option.some.inj same)]
      split
      · exact .intText _
      · exact .write x
    exact absurd (css _ brace) (by decide)
  | text u =>
    have css : u = enclosed "\x7b" "\x7d" texts := Option.some.inj same
    have inside : ∃ e ∈ node, e.2 = .text u := by
      have located {key : Text} (found : (Entries.get? node key).bind Value.scalar? = some (.text u)) :
          ∃ e ∈ node, e.2 = .text u := by
        obtain ⟨v, hv, hs⟩ := Option.bind_eq_some_iff.mp found
        obtain ⟨e, he, rfl⟩ := Option.map_eq_some_iff.mp hv
        refine ⟨e, List.mem_of_find?_eq_some he, ?_⟩
        exact Value.eq_of_scalar?_eq_some hs
      rcases Option.or_eq_some_iff.mp token with value | ⟨-, default⟩
      · exact located value
      · exact located default
    obtain ⟨e, he, hu⟩ := inside
    obtain ⟨key, value, hv, member⟩ := exists_entry_text entries he
    obtain rfl : Text.quote u = value := Option.some.inj ((hu ▸ hv : (Value.text u).inner? = _))
    -- The text would be longer than itself.
    have quoted := lt_length_quote u
    have joined := length_le_intercalate member
    have length := congrArg (fun t : Text => t.toList.length) css
    simp only [enclosed, Text.toList_ofString, String.toList_append, List.length_map,
      List.length_append] at length joined
    omega

/-- The group of colours that an inline style is made from. -/
def schemeName (dark : Bool) : Text := if dark then "dark" else "slide"

def Document.scheme (doc : Document) (dark : Bool) : Entries :=
  ((doc.lookup (schemeName dark)).bind Value.entries?).getD []

namespace Entries

/-- The value of a colour, unless it is missing or null. -/
def color? (scheme : Entries) (token : Text) : Option Value :=
  match scheme.get? token with
  | none | some (.atom .null) => none
  | some v => some v

/-- A colour that is missing or null, or a scalar outside of a wrapper and no whole double. -/
def StatesPlainly (scheme : Entries) (token : Text) : Prop :=
  match scheme.color? token with
  | none => True
  | some (.atom (.scalar s)) => (Value.map scheme).isWrapper = false ∧ ¬ s.IsWhole
  | some _ => False

end Entries

/-- The style of a colour of the group, if the colour is there and has a text. -/
def styleOf (scheme : Entries) (color : String × String) : List (String × Text) :=
  (((scheme.color? color.2).bind Value.render?).map (color.1, ·)).toList

/-- Every colour of the group that is there has a text. -/
def Legible (scheme : Entries) (colors : List (String × String)) : Prop :=
  ∀ color ∈ colors, ∀ v, scheme.color? color.2 = some v → v.render? ≠ none

theorem colorStyle_eq_ok_iff {scheme : Entries} {color : String × String}
    {style : List (String × Text)} :
    colorStyle scheme color = .ok style ↔
      (∀ v, scheme.color? color.2 = some v → v.render? ≠ none) ∧ style = styleOf scheme color := by
  have read : colorStyle scheme color = (scheme.color? color.2).elim (.ok []) fun v =>
      (written v.render?).map fun text => [(color.1, text)] := by
    unfold colorStyle Entries.color?
    cases scheme.get? color.2 with
    | none => rfl
    | some v =>
      cases v with
      | atom a => cases a <;> rfl
      | list | tuple | set | map => rfl
  rw [read, styleOf]
  cases scheme.color? color.2 with
  | none => simp [eq_comm]
  | some v => cases hr : v.render? <;> simp [hr, written, Except.map, eq_comm]

theorem mapM_colorStyle_eq_ok_iff {scheme : Entries} {colors : List (String × String)}
    {styles : List (List (String × Text))} :
    colors.mapM (colorStyle scheme) = .ok styles ↔
      Legible scheme colors ∧ styles = colors.map (styleOf scheme) := by
  induction colors generalizing styles with
  | nil => simp [Legible, pure, Except.pure, eq_comm]
  | cons color rest ih =>
    rw [List.mapM_cons, Legible, List.forall_mem_cons, List.map_cons]
    constructor
    · intro read
      obtain ⟨style, first, read⟩ := Json.exists_of_bind_ok read
      obtain ⟨others, later, done⟩ := Json.exists_of_bind_ok read
      obtain ⟨shown, rfl⟩ := colorStyle_eq_ok_iff.mp first
      obtain ⟨legible, rfl⟩ := ih.mp later
      exact ⟨⟨shown, legible⟩, (Except.ok.inj done).symm⟩
    · rintro ⟨⟨shown, legible⟩, rfl⟩
      rw [colorStyle_eq_ok_iff.mpr ⟨shown, rfl⟩, ih.mpr ⟨legible, rfl⟩]
      rfl

theorem lookup_styleOf (scheme : Entries) (color : String × String) (style : String) :
    (styleOf scheme color).lookup style =
      if style = color.1 then (scheme.color? color.2).bind Value.render? else none := by
  rw [styleOf]
  cases (scheme.color? color.2).bind Value.render? with
  | none => simp
  | some text => simp [lookup_cons_ite]

theorem lookup_inlineColors (scheme : Entries) {color : String × String}
    (listed : color ∈ inlineColors) :
    (inlineColors.flatMap (styleOf scheme)).lookup color.1 =
      (scheme.color? color.2).bind Value.render? := by
  simp only [inlineColors, List.mem_cons, List.not_mem_nil, or_false] at listed
  rcases listed with rfl | rfl | rfl | rfl <;>
    simp [inlineColors, List.lookup_append, lookup_styleOf]

/-- The font is the only style besides the colours. -/
theorem lookup_inlineFont {doc : Document} {font : List (String × Text)}
    (read : doc.inlineFont = .ok font) {color : String × String} (listed : color ∈ inlineColors) :
    font.lookup color.1 = none := by
  have other : color.1 ≠ "fontFamily" := by
    revert color
    decide
  have single (text : Text) : [("fontFamily", text)].lookup color.1 = none := by
    rw [lookup_cons_ite, if_neg other]
    rfl
  unfold Document.inlineFont at read
  split at read
  · split at read
    · exact Except.ok.inj read ▸ single _
    · cases read
  · exact Except.ok.inj read ▸ single _
  · exact Except.ok.inj read ▸ rfl

theorem inlineStyles_eq_ok_iff {doc : Document} {dark : Bool} {styles : List (String × Text)} :
    doc.inlineStyles dark = .ok styles ↔
      ∃ font, doc.inlineFont = .ok font ∧ Legible (doc.scheme dark) inlineColors ∧
        styles = font ++ inlineColors.flatMap (styleOf (doc.scheme dark)) := by
  constructor
  · intro read
    obtain ⟨font, hfont, read⟩ := Json.exists_of_bind_ok read
    obtain ⟨colors, hcolors, done⟩ := Json.exists_of_bind_ok read
    obtain ⟨legible, rfl⟩ := mapM_colorStyle_eq_ok_iff.mp hcolors
    exact ⟨font, hfont, legible, (Except.ok.inj done).symm⟩
  · rintro ⟨font, hfont, legible, rfl⟩
    have colors := mapM_colorStyle_eq_ok_iff.mpr ⟨legible, rfl⟩
    rw [Document.inlineStyles, hfont]
    exact congrArg (· >>= fun colors => pure (font ++ colors.flatten)) colors

/-- A style shows the text that the declaration of an entry has, and is missing without one. -/
def ShownAs (styles : List (String × Text)) (style : String) (entry : Option Scalar) : Prop :=
  match entry with
  | none => styles.lookup style = none
  | some s => ∃ text, s.css = .ok text ∧ styles.lookup style = some text

theorem Entries.get?_of_color? {scheme : Entries} {token : Text} {v : Value}
    (colored : scheme.color? token = some v) : scheme.get? token = some v := by
  unfold Entries.color? at colored
  split at colored
  · cases colored
  · cases colored
  · rename_i here
    exact here.trans colored

/-- What stands for a colour that is missing or null is no token. -/
theorem Entries.token?_of_color?_none {scheme : Entries} {token : Text}
    (missing : scheme.color? token = none) : (scheme.get? token).bind Value.token? = none := by
  unfold Entries.color? at missing
  split at missing
  · simp_all
  · simp_all [Value.token?]
  · cases missing

/-- What flattening finds at the position of a colour. -/
def Entries.colorToken? (scheme : Entries) (token : Text) : Option Scalar :=
  if (Value.map scheme).isWrapper then none else (scheme.get? token).bind Value.token?

/-- The style of a colour shows the token of the colour exactly if the group states it plainly. -/
theorem shownAs_iff_statesPlainly {scheme : Entries} {token style : String}
    {styles : List (String × Text)}
    (shown : styles.lookup style = (scheme.color? token).bind Value.render?)
    (legible : ∀ v, scheme.color? token = some v → v.render? ≠ none) :
    ShownAs styles style (scheme.colorToken? token) ↔ scheme.StatesPlainly token := by
  unfold Entries.StatesPlainly
  cases colored : scheme.color? token with
  | none =>
    have entry : scheme.colorToken? token = none := by
      rw [Entries.colorToken?, Entries.token?_of_color?_none colored, ite_self]
    rw [colored] at shown
    simp only [entry, ShownAs, iff_true]
    exact shown
  | some v =>
    obtain ⟨text, written⟩ := Option.ne_none_iff_exists'.mp (legible v colored)
    rw [colored, Option.bind_some, written] at shown
    rw [Entries.colorToken?, Entries.get?_of_color? colored, Option.bind_some]
    by_cases wrapper : (Value.map scheme).isWrapper
    · rw [if_pos wrapper]
      have hidden : ¬ ShownAs styles style none := by simp [ShownAs, shown]
      cases v with
      | atom a => cases a <;> simp [hidden, wrapper]
      | list | tuple | set | map => simp [hidden]
    · rw [if_neg wrapper]
      have mapped {s : Scalar} : ShownAs styles style (some s) ↔
          (Value.scalar s).css? = some text := by
        simp [ShownAs, shown, FlatMap.css_eq_ok_iff]
      have untold : ¬ ShownAs styles style none := by simp [ShownAs, shown]
      cases v with
      | atom a =>
        cases a with
        | scalar s =>
          rw [show (Value.atom (.scalar s)).token? = some s from rfl, mapped, css?_eq_iff written]
          simp [wrapper]
        | _ => simpa [Value.token?] using untold
      | map node =>
        cases token : (Value.map node).token? with
        | none => simpa using untold
        | some s => simpa [mapped] using css?_ne_of_map token written
      | list | tuple | set => simpa [Value.token?] using untold

/-- The position of a colour. -/
def colorSteps (dark : Bool) (token : Text) : List Text := [schemeName dark, token]

theorem tokenAt?_colorSteps (doc : Document) (dark : Bool) (token : Text) :
    doc.tokenAt? (colorSteps dark token) = (doc.scheme dark).colorToken? token := by
  have single : doc.lookup (schemeName dark) = Entries.get? doc (schemeName dark) := by
    have steps : Text.splitAt '.' (schemeName dark) = [schemeName dark] := by
      cases dark <;> decide
    rw [Document.lookup, steps, Value.at?]
    cases Entries.get? doc (schemeName dark) with
    | none => rfl
    | some v => cases v <;> rfl
  rw [colorSteps, Document.tokenAt?, Document.scheme, single]
  cases Entries.get? doc (schemeName dark) with
  | none => rfl
  | some v =>
    cases v with
    | map node =>
      rw [Option.bind_some, Value.tokenAt?]
      rfl
    | atom | list | tuple | set => rfl

/-- The keys of a colour are names, and joined they are the path of its variable. -/
theorem colorSteps_plain (dark : Bool) {color : String × String} (listed : color ∈ inlineColors) :
    (∀ step ∈ colorSteps dark color.2, isStep step ∧ PlainKey step) ∧
      pathOf (colorSteps dark color.2) = schemeName dark ++ "-" ++ color.2 := by
  simp only [PlainKey]
  revert color
  cases dark <;> decide +kernel

/-- The group of font families, or the one around it, is hidden by a scalar `value` of its own. -/
def Document.HidesFonts (doc : Document) : Prop :=
  ∃ path ∈ [("typography" : Text), "typography.fontFamily"],
    ∃ v, doc.lookup path = some v ∧ v.isWrapper

theorem Value.exists_of_at?_cons {v w : Value} {step : Text} {rest : List Text}
    (found : v.at? (step :: rest) = some w) :
    ∃ es next, v = .map es ∧ Entries.get? es step = some next ∧ next.at? rest = some w := by
  cases v with
  | map es =>
    rw [at?] at found
    cases here : Entries.get? es step with
    | none =>
      rw [here] at found
      cases found
    | some next =>
      rw [here] at found
      exact ⟨es, next, rfl, here, found⟩
  | atom | list | tuple | set => cases found

theorem under_mem_entryVisits {es : Entries} {key : Text} {v : Value}
    (found : (.text key, v) ∈ es) (plain : isMetadataKey key = false) {u : Visit}
    (here : u ∈ v.visits key) : u.under key ∈ entryVisits es := by
  rw [entryVisits_eq_flatMap, List.mem_flatMap]
  exact ⟨_, found, (mem_visitsUnder_iff _ _ _).mpr (Or.inr ⟨key, rfl, plain, u, here, rfl⟩)⟩

theorem under_mem_fontVisits {es : Entries} {key : Text} {fonts : Value}
    (found : (.text key, fonts) ∈ es) (plain : isMetadataKey key = false) :
    (Visit.here (.ofRole fonts)).under key ∈ fontVisits es := by
  rw [fontVisits_eq_flatMap, List.mem_flatMap]
  exact ⟨_, found, (mem_visitsUnder_iff _ _ _).mpr
    (Or.inr ⟨key, rfl, plain, _, List.mem_cons_self, rfl⟩)⟩

/-- Outside of a wrapper every entry is visited, except that a group of font families has a way of
its own. -/
theorem under_mem_visits {node : Entries} {key step : Text} {v : Value}
    (entered : (Value.map node).isWrapper = false) (named : key ≠ fontFamilyKey)
    (found : (.text step, v) ∈ node) (plain : isMetadataKey step = false) {u : Visit}
    (here : u ∈ v.visits step) : u.under step ∈ (Value.map node).visits key := by
  have inside := under_mem_entryVisits found plain here
  have scalar : (Entries.get? node valueKey).bind Value.scalar? = none := by
    simpa [Value.isWrapper] using entered
  rw [Value.visits, scalar]
  cases Entries.get? node defaultKey with
  | none => simpa [named] using inside
  | some default => exact List.mem_cons_of_mem _ inside

theorem ofRole_of_broken {fonts : List Value} {cause : Malformation}
    (broken : fontStack fonts = .error cause) :
    ∃ cause, Finding.ofRole (.list fonts) = .malformed cause := by
  rw [fontStack, fontNames_eq] at broken
  rw [Finding.ofRole]
  cases first : fonts.find? fun v => v.text?.isNone with
  | none =>
    rw [first] at broken
    cases broken
  | some v => exact ⟨_, rfl⟩

/-- A list that is no font stack is at fault wherever it stands in a group of font families. -/
theorem malformed_mem_visits {node : Entries} {role : Text} {fonts : List Value}
    {cause : Malformation} (entered : (Value.map node).isWrapper = false)
    (found : (.text role, .list fonts) ∈ node) (plain : isMetadataKey role = false)
    (broken : fontStack fonts = .error cause) :
    ∃ cause, ⟨[role], .malformed cause⟩ ∈ (Value.map node).visits fontFamilyKey := by
  have scalar : (Entries.get? node valueKey).bind Value.scalar? = none := by
    simpa [Value.isWrapper] using entered
  rw [Value.visits, scalar]
  cases Entries.get? node defaultKey with
  | none =>
    obtain ⟨cause, malformed⟩ := ofRole_of_broken broken
    have inside := under_mem_fontVisits found plain
    rw [malformed] at inside
    exact ⟨cause, inside⟩
  | some default =>
    exact ⟨_, List.mem_cons_of_mem _ (under_mem_entryVisits found plain List.mem_cons_self)⟩

theorem exists_groups_of_sans {doc : Document} {v : Value} (found : doc.lookup sansPath = some v) :
    ∃ types roles, Entries.get? doc "typography" = some (.map types) ∧
      Entries.get? types fontFamilyKey = some (.map roles) ∧ Entries.get? roles "sans" = some v := by
  have steps : Text.splitAt '.' sansPath = [("typography" : Text), fontFamilyKey, "sans"] := by decide
  rw [Document.lookup, steps] at found
  obtain ⟨_, group, same, hgroup, found⟩ := Value.exists_of_at?_cons found
  cases same
  obtain ⟨types, families, rfl, hfamilies, found⟩ := Value.exists_of_at?_cons found
  obtain ⟨roles, _, rfl, hsans, found⟩ := Value.exists_of_at?_cons found
  cases found
  exact ⟨types, roles, hgroup, hfamilies, hsans⟩

theorem lookup_typography {doc : Document} {types : Value}
    (group : Entries.get? doc "typography" = some types) :
    doc.lookup "typography" = some types := by
  have steps : Text.splitAt '.' "typography" = [("typography" : Text)] := by decide
  rw [Document.lookup, steps, Value.at?, group]
  rfl

theorem lookup_fontFamily {doc : Document} {types : Entries} {roles : Value}
    (group : Entries.get? doc "typography" = some (.map types))
    (families : Entries.get? types fontFamilyKey = some roles) :
    doc.lookup "typography.fontFamily" = some roles := by
  have steps : Text.splitAt '.' "typography.fontFamily" =
      [("typography" : Text), fontFamilyKey] := by decide
  rw [Document.lookup, steps, Value.at?, group]
  dsimp only
  rw [Value.at?, families]
  rfl

/-- Fonts that make no font stack are a fault of flattening, unless a wrapper hides them. -/
theorem exists_malformed_of_broken {doc : Document} {fonts : List Value} {cause : Malformation}
    (shown : ¬ doc.HidesFonts) (found : doc.lookup sansPath = some (.list fonts))
    (broken : fontStack fonts = .error cause) :
    ∃ keys cause, ⟨keys, .malformed cause⟩ ∈ doc.visits := by
  obtain ⟨types, roles, group, families, sans⟩ := exists_groups_of_sans found
  have entered {path : Text} (way : path ∈ [("typography" : Text), "typography.fontFamily"])
      {node : Entries} (here : doc.lookup path = some (.map node)) :
      (Value.map node).isWrapper = false := by
    by_contra wrapper
    exact shown ⟨path, way, _, here, by simpa using wrapper⟩
  obtain ⟨fault, malformed⟩ :=
    malformed_mem_visits (entered (by simp) (lookup_fontFamily group families))
      (Entries.mem_of_get? sans) (by decide) broken
  have named : ("typography" : Text) ≠ fontFamilyKey := by decide
  have inside := under_mem_visits (entered (by simp) (lookup_typography group)) named
    (Entries.mem_of_get? families) (by decide) malformed
  exact ⟨_, _, under_mem_entryVisits (Entries.mem_of_get? group) (by decide) inside⟩

/-- The font can be read off a document that flattens, unless a wrapper hides it from flattening. -/
theorem exists_inlineFont {doc : Document} {flat : FlatMap} (flattened : doc.flatten = .ok flat)
    (shown : ¬ doc.HidesFonts) : ∃ font, doc.inlineFont = .ok font := by
  have sound : ∀ v ∈ doc.visits, v.fault? "" = none :=
    List.findSome?_eq_none_iff.mp ((flattenUnder_eq_ok_iff "" doc flat).mp flattened).1
  unfold Document.inlineFont
  split
  · rename_i fonts found
    cases stack : fontStack fonts with
    | ok text => exact ⟨_, rfl⟩
    | error cause =>
      obtain ⟨_, _, visited⟩ := exists_malformed_of_broken shown found stack
      cases sound _ visited
  · exact ⟨_, rfl⟩
  · exact ⟨_, rfl⟩

/-- There are inline styles exactly if the font can be read, as it can unless a wrapper hides it, and
every colour that is there has a text. On a path that its token owns, as every one does in a plainly
spelt document, the style of a colour shows the entry of the flat map, with the text of its
declaration, exactly if the group states the colour plainly. -/
theorem inline_colors_agree_with_flat {doc : Document} {flat : FlatMap} (keyed : doc.Keyed)
    (flattened : doc.flatten = .ok flat) (dark : Bool) :
    (¬ doc.HidesFonts → ∃ font, doc.inlineFont = .ok font) ∧
      ((∃ styles, doc.inlineStyles dark = .ok styles) ↔
        (∃ font, doc.inlineFont = .ok font) ∧ Legible (doc.scheme dark) inlineColors) ∧
      ∀ color ∈ inlineColors,
        (doc.Spelt → doc.Owns (colorSteps dark color.2)) ∧
        (doc.Owns (colorSteps dark color.2) → ∀ styles, doc.inlineStyles dark = .ok styles →
          (ShownAs styles color.1 (flat.get? (schemeName dark ++ "-" ++ color.2)) ↔
            (doc.scheme dark).StatesPlainly color.2)) := by
  refine ⟨exists_inlineFont flattened, ?_, ?_⟩
  · simp only [inlineStyles_eq_ok_iff]
    constructor
    · rintro ⟨_, font, hfont, legible, -⟩
      exact ⟨⟨font, hfont⟩, legible⟩
    · rintro ⟨⟨font, hfont⟩, legible⟩
      exact ⟨_, font, hfont, legible, rfl⟩
  · intro color listed
    obtain ⟨steps, joined⟩ := colorSteps_plain dark listed
    constructor
    · intro spelt
      exact owns_of_spelt spelt (List.cons_ne_nil _ _) fun step hs => (steps step hs).2
    · intro owns styles read
      obtain ⟨font, hfont, legible, rfl⟩ := inlineStyles_eq_ok_iff.mp read
      rw [← joined, get?_of_owns keyed flattened (fun step hs => (steps step hs).1) owns,
        tokenAt?_colorSteps]
      refine shownAs_iff_statesPlainly ?_ (legible color listed)
      rw [List.lookup_append, lookup_inlineFont hfont listed, Option.none_or,
        lookup_inlineColors _ listed]

/-- A group of colours behind a colliding path; one colour is in a wrapper. -/
def Document.tinted : Document :=
  [(.text "dark-text", .text "#000"),
    (.text "dark", .map [(.text "text", .text "#eee"),
      (.text "background", .map [(.text "value", .text "#111")])])]

def tintedFlat : FlatMap := [("dark-text", .text "#eee"), ("dark-background", .text "#111")]

def tintedStyles : List (String × Text) :=
  [("backgroundColor", "\x7b'value': '#111'\x7d"), ("color", "#eee")]

theorem inline_colors_agree_with_flat_tinted :
    Document.tinted.Keyed ∧ Document.tinted.flatten = .ok tintedFlat ∧
      Document.tinted.Owns (colorSteps true "text") ∧
      Document.tinted.inlineStyles true = .ok tintedStyles ∧
      ShownAs tintedStyles "color" (tintedFlat.get? (schemeName true ++ "-" ++ "text")) := by
  have keyed : Document.tinted.Keyed := by simp [Document.Keyed, Document.tinted]
  have flattened : Document.tinted.flatten = .ok tintedFlat := by rfl
  have owns : Document.tinted.Owns (colorSteps true "text") := by
    intro v found
    cases found
    rfl
  have read : Document.tinted.inlineStyles true = .ok tintedStyles := by rfl
  have plainly : (Document.tinted.scheme true).StatesPlainly "text" :=
    ⟨rfl, by simp [Scalar.IsWhole]⟩
  refine ⟨keyed, flattened, owns, read, ?_⟩
  exact (((inline_colors_agree_with_flat keyed flattened true).2.2 ("color", "text")
    (by simp [inlineColors])).2 owns _ read).mpr plainly

/-- A background in a wrapper. -/
def Document.wrappedBackground : Document :=
  [(.text "slide", .map [(.text "background", .map [(.text "value", .text "#fff")])])]

/-- The flat map has the colour, and the inline style shows the mapping around it. -/
theorem wrappedBackground_is_shown_raw :
    Document.wrappedBackground.flatten = .ok [("slide-background", .text "#fff")] ∧
      (Scalar.text "#fff").css = .ok "#fff" ∧
      Document.wrappedBackground.inlineStyles false =
        .ok [("backgroundColor", "\x7b'value': '#fff'\x7d")] :=
  ⟨rfl, rfl, rfl⟩

end DesignTokens
