import DesignTokens.Proofs.Configuration
import DesignTokens.Proofs.LookUps
import DesignTokens.Proofs.TextKeys

/-!
# How the utility configuration extends the theme

The configuration of a document is described section by section from the groups of the document, and
so is the first thing that keeps a document from having one: a group that is needed and is not there,
or a font size that is a mapping without a scalar `value`.
-/

namespace DesignTokens

theorem Value.Holds.distinct {v w : Value} {steps : List Text} (holds : v.Holds steps w)
    (distinct : v.Distinct) : w.Distinct := by
  induction holds with
  | here => exact distinct
  | step entry _ ih =>
    exact ih (((Value.distinct_map_iff _).mp distinct).2 _ (Entries.mem_of_get? entry))

theorem Document.Distinct.group {doc : Document} (distinct : doc.Distinct) (path : Text) :
    (doc.group path).Distinct := by
  rw [Document.group]
  cases found : doc.lookup path with
  | none => exact List.Pairwise.nil
  | some v =>
    have below := ((doc.lookup_eq_some_iff path v).mp found).distinct distinct
    cases below with
    | map distinct _ => exact distinct
    | leaf none =>
      rw [Option.bind_some, none]
      exact List.Pairwise.nil

/-- The value under a key. -/
def Entries.under? (es : Entries) (key : Atom) : Option Value :=
  (es.find? fun e => e.1 = key).map Prod.snd

/-- Entries with others over them: a value of the others takes the place of the one under the same
key, and the others that have a key of their own come behind, in their order. -/
def Entries.overlaid (es others : Entries) : Entries :=
  es.map (fun e => (e.1, (others.under? e.1).getD e.2)) ++ others.filter fun e => e.1 ∉ es.keys

namespace Entries

theorem under?_cons (key : Atom) (v : Value) (rest : Entries) (k : Atom) :
    under? ((key, v) :: rest) k = if key = k then some v else rest.under? k := by
  by_cases hk : key = k
  · simp [under?, hk]
  · simp [under?, hk]

theorem under?_eq_none {es : Entries} {key : Atom} (fresh : ∀ e ∈ es, e.1 ≠ key) :
    es.under? key = none := by
  simp only [under?, Option.map_eq_none_iff, List.find?_eq_none, decide_eq_true_eq]
  exact fresh

theorem keys_map_value (es : Entries) (f : Atom × Value → Value) :
    keys (es.map fun e => (e.1, f e)) = es.keys := by
  rw [keys, keys, List.map_map]
  rfl

section Put

variable {es added : Entries} {key : Atom}

/-- A text is one key with itself alone. -/
theorem sameKey_of_mem (texts : ∀ e ∈ es, ∃ name, e.1 = .text name) {e : Atom × Value} (he : e ∈ es)
    (key : Atom) : e.1.sameKey key = decide (key = e.1) := by
  obtain ⟨name, text⟩ := texts e he
  rw [text, Atom.text_sameKey]

theorem put_known (texts : ∀ e ∈ es, ∃ name, e.1 = .text name) (known : key ∈ es.keys)
    (apart : ∀ e ∈ added, e.1.sameKey key = false) (v : Value) :
    put (es ++ added) key v = es.map (fun e => (e.1, if key = e.1 then v else e.2)) ++ added := by
  obtain ⟨e, he, rfl⟩ := List.mem_map.mp known
  have found : (es ++ added).any (fun f => f.1.sameKey e.1) = true :=
    List.any_eq_true.mpr ⟨e, List.mem_append_left _ he, by simp [sameKey_of_mem texts he]⟩
  rw [put, if_pos found, List.map_append]
  congr 1
  · refine List.map_congr_left fun f hf => ?_
    rw [sameKey_of_mem texts hf]
    by_cases here : e.1 = f.1 <;> simp [here]
  · have kept : added.map (fun f => if f.1.sameKey e.1 then (f.1, v) else f) = added.map id :=
      List.map_congr_left fun f hf => by rw [apart f hf, if_neg Bool.false_ne_true, id]
    rw [kept, List.map_id]

theorem put_fresh (texts : ∀ e ∈ es, ∃ name, e.1 = .text name) (fresh : key ∉ es.keys)
    (apart : ∀ e ∈ added, e.1.sameKey key = false) (v : Value) :
    put (es ++ added) key v = es ++ (added ++ [(key, v)]) := by
  rw [put, if_neg, List.append_assoc]
  intro found
  obtain ⟨e, he, same⟩ := List.any_eq_true.mp found
  rcases List.mem_append.mp he with he | he
  · rw [sameKey_of_mem texts he, decide_eq_true_eq] at same
    exact fresh (same ▸ List.mem_map_of_mem he)
  · rw [apart e he] at same
    cases same

end Put

/-- The induction is on the entries that are put: `added` are those of them that are behind the
first ones by now, whose keys do not come again. -/
theorem putAll_append {es added others : Entries} (texts : ∀ e ∈ es, ∃ name, e.1 = .text name)
    (distinct : others.Distinct) (apart : ∀ e ∈ added, ∀ f ∈ others, e.1.sameKey f.1 = false) :
    putAll (es ++ added) others =
      es.map (fun e => (e.1, (others.under? e.1).getD e.2)) ++ added ++
        others.filter fun e => e.1 ∉ es.keys := by
  induction others generalizing es added with
  | nil => simp [putAll, under?]
  | cons f others ih =>
    obtain ⟨key, v⟩ := f
    obtain ⟨first, distinct⟩ := List.pairwise_cons.mp distinct
    have step : putAll (es ++ added) ((key, v) :: others) = putAll (put (es ++ added) key v) others := rfl
    have now : ∀ e ∈ added, e.1.sameKey key = false := fun e he => apart e he _ List.mem_cons_self
    have later : ∀ e ∈ added, ∀ f ∈ others, e.1.sameKey f.1 = false :=
      fun e he f hf => apart e he f (List.mem_cons_of_mem _ hf)
    by_cases known : key ∈ es.keys
    · have once : ∀ e ∈ es, key = e.1 → under? others e.1 = none := by
        intro e he here
        obtain ⟨name, text⟩ := texts e he
        refine under?_eq_none fun f hf again => ?_
        have twice := first f hf
        rw [here, again, text, Atom.text_sameKey, decide_eq_false_iff_not] at twice
        exact twice rfl
      rw [step, put_known texts known now, ih ?_ distinct later, keys_map_value, List.map_map,
        List.filter_cons_of_neg (by simpa using known)]
      · congr 2
        refine List.map_congr_left fun e he => ?_
        rw [Function.comp, under?_cons]
        by_cases here : key = e.1
        · simp [here, once e he here]
        · simp [here]
      · intro e he
        obtain ⟨e', he', rfl⟩ := List.mem_map.mp he
        exact texts e' he'
    · rw [step, put_fresh texts known now, ih texts distinct ?_,
        List.filter_cons_of_pos (by simpa using known)]
      · have other : ∀ e ∈ es, key ≠ e.1 := fun e he here => known (here ▸ List.mem_map_of_mem he)
        have kept : es.map (fun e => (e.1, (under? ((key, v) :: others) e.1).getD e.2)) =
            es.map fun e => (e.1, (under? others e.1).getD e.2) :=
          List.map_congr_left fun e he => by rw [under?_cons, if_neg (other e he)]
        rw [kept]
        simp only [List.append_assoc, List.singleton_append]
      · intro e he f hf
        rcases List.mem_append.mp he with he | he
        · exact later e he f hf
        · rw [List.mem_singleton.mp he]
          exact first f hf

theorem putAll_eq_overlaid {es others : Entries} (texts : ∀ e ∈ es, ∃ name, e.1 = .text name)
    (distinct : others.Distinct) : es.putAll others = es.overlaid others := by
  have apart : ∀ e ∈ ([] : Entries), ∀ f ∈ others, e.1.sameKey f.1 = false := by simp
  have put := putAll_append texts distinct apart
  rwa [List.append_nil, List.append_nil] at put

end Entries

namespace UtilityConfig

/-- The entries that a mapping has under the given names, in the order of the names. -/
def Picked (names : List Text) (source out : Entries) : Prop :=
  List.Forall₂ (fun name e => e.1 = .text name ∧ source.get? name = some e.2)
    (names.filter fun name => source.contains name) out

/-- A font size stands for itself; a mapping stands for its scalar `value`. -/
inductive StandsFor : Value → Value → Prop
  | itself {v : Value} (noMap : v.entries? = none) : StandsFor v v
  | value {node : Entries} {s : Scalar} (wrapped : node.get? valueKey = some (.scalar s)) :
      StandsFor (.map node) (.scalar s)

/-- The section of font sizes is there if they are a mapping, under the same keys. -/
inductive Sized : Option Value → Entries → Prop
  | absent {v : Option Value} (noMap : v.bind Value.entries? = none) : Sized v []
  | sizes {es out : Entries} (all : List.Forall₂ (fun e f => f.1 = e.1 ∧ StandsFor e.2 f.2) es out) :
      Sized (some (.map es)) [(.text "fontSize", .map out)]

/-- A section that is copied, unless there is nothing or null to copy. -/
inductive Copied (name : Text) : Option Value → Entries → Prop
  | absent : Copied name none []
  | null : Copied name (some .null) []
  | copied {v : Value} (told : v ≠ .null) : Copied name (some v) [(.text name, v)]

/-- The groups that are needed are mappings, and the font sizes that are mappings have a scalar
`value`. -/
structure Complete (doc : Document) : Prop where
  colors : ∃ ramps, doc.lookup "colors" = some (.map ramps)
  fontFamily : ∃ fonts, doc.lookup "typography.fontFamily" = some (.map fonts)
  fontSize : ∀ sizes key node, doc.lookup "typography.fontSize" = some (.map sizes) →
    (key, .map node) ∈ sizes → ∃ s, Entries.get? node valueKey = some (.scalar s)

/-- What a document extends the theme by, section by section. -/
inductive Extends (doc : Document) : Entries → Prop
  | sections {ramps fonts shades families sizes radius shadow : Entries}
      (colors : doc.lookup "colors" = some (.map ramps))
      (fontFamily : doc.lookup "typography.fontFamily" = some (.map fonts))
      (shaded : Picked ["primary", "secondary", "neutral"] ramps shades)
      (named : Picked ["sans", "heading", "mono", "display"] fonts families)
      (sized : Sized (doc.lookup "typography.fontSize") sizes)
      (rounded : Copied "borderRadius" (doc.lookup "borderRadius") radius)
      (shadowed : Copied "boxShadow" (doc.lookup "shadows") shadow) :
      Extends doc
        ([(.text "colors", .map [(.text "prsm", .map (shades.overlaid (doc.group "colors.semantic")))]),
          (.text "fontFamily", .map families)] ++ sizes ++ radius ++ shadow)

/-- A group that is needed is missing or null, or no mapping. -/
inductive Lacking : Option Value → Malformation → Prop
  | absent : Lacking none .groupMissing
  | null : Lacking (some .null) .groupMissing
  | other {v : Value} (told : v ≠ .null) (noMap : v.entries? = none) :
      Lacking (some v) .groupNotMapping

/-- The first thing that keeps a document from having a configuration: the colours, the families of
fonts, or the first font size that stands for nothing. -/
inductive Fails (doc : Document) : TokenFault → Prop
  | colors {cause : Malformation} (lacking : Lacking (doc.lookup "colors") cause) :
      Fails doc (.malformed "colors" cause)
  | fontFamily {ramps : Entries} {cause : Malformation}
      (colors : doc.lookup "colors" = some (.map ramps))
      (lacking : Lacking (doc.lookup "typography.fontFamily") cause) :
      Fails doc (.malformed "typography-fontFamily" cause)
  | fontSize {ramps fonts before after node : Entries} {key : Atom}
      (colors : doc.lookup "colors" = some (.map ramps))
      (fontFamily : doc.lookup "typography.fontFamily" = some (.map fonts))
      (sizes : doc.lookup "typography.fontSize" = some (.map (before ++ (key, .map node) :: after)))
      (first : ∀ e ∈ before, ∃ v, StandsFor e.2 v)
      (unfit : ∀ v, ¬ StandsFor (.map node) v) :
      Fails doc (unfitSize key)

theorem picked_iff (names : List Text) (source out : Entries) :
    Picked names source out ↔ out = pick names source := by
  unfold Picked pick
  induction names generalizing out with
  | nil => simp
  | cons name names ih =>
    cases found : source.get? name with
    | none =>
      have lacks : ¬ source.contains name = true := by simp [Entries.contains, found]
      rw [List.filter_cons_of_neg lacks, List.filterMap_cons_none (by simp [found])]
      exact ih out
    | some v =>
      have has : source.contains name = true := Entries.contains_of_get? found
      rw [List.filter_cons_of_pos has, List.filterMap_cons_some (b := (.text name, v)) (by simp [found]),
        List.forall₂_cons_left_iff]
      simp only [ih, found]
      constructor
      · rintro ⟨⟨key, w⟩, rest, ⟨rfl, same⟩, rfl, rfl⟩
        rw [Option.some.inj same]
      · rintro rfl
        exact ⟨_, _, ⟨rfl, rfl⟩, rfl, rfl⟩

theorem standsFor_iff (v w : Value) : StandsFor v w ↔ isSize v = true ∧ w = size v := by
  constructor
  · intro stands
    cases stands with
    | itself noMap =>
      cases v with
      | map node => cases noMap
      | atom a | list items | tuple items | set members => exact ⟨rfl, rfl⟩
    | value wrapped =>
      rw [isSize, size, wrapped]
      exact ⟨rfl, rfl⟩
  · rintro ⟨fits, rfl⟩
    cases v with
    | map node =>
      obtain ⟨s, hs⟩ := Option.isSome_iff_exists.mp fits
      obtain ⟨x, found, scalar⟩ := Option.bind_eq_some_iff.mp hs
      rw [size, hs]
      exact .value (Value.eq_of_scalar?_eq_some scalar ▸ found)
    | atom a | list items | tuple items | set members => exact .itself rfl

theorem exists_standsFor_iff (v : Value) : (∃ w, StandsFor v w) ↔ isSize v = true := by
  simp only [standsFor_iff, exists_and_left, exists_eq, and_true]

theorem sizes_iff (es out : Entries) :
    List.Forall₂ (fun e f => f.1 = e.1 ∧ StandsFor e.2 f.2) es out ↔
      (es.all fun e => isSize e.2) = true ∧ out = es.map fun e => (e.1, size e.2) := by
  induction es generalizing out with
  | nil => simp
  | cons e rest ih =>
    rw [List.forall₂_cons_left_iff, List.all_cons, Bool.and_eq_true, List.map_cons]
    constructor
    · rintro ⟨⟨key, w⟩, out, ⟨rfl, stands⟩, all, rfl⟩
      obtain ⟨fits, rfl⟩ := (standsFor_iff _ _).mp stands
      obtain ⟨fit, rfl⟩ := (ih out).mp all
      exact ⟨⟨fits, fit⟩, rfl⟩
    · rintro ⟨⟨fits, fit⟩, rfl⟩
      exact ⟨(e.1, size e.2), _, ⟨rfl, (standsFor_iff _ _).mpr ⟨fits, rfl⟩⟩, (ih _).mpr ⟨fit, rfl⟩, rfl⟩

theorem sized_iff (v : Option Value) (out : Entries) :
    Sized v out ↔
      (((v.bind Value.entries?).getD []).all fun e => isSize e.2) = true ∧
      out = match v.bind Value.entries? with
        | some es => [(.text "fontSize", .map (es.map fun e => (e.1, size e.2)))]
        | none => [] := by
  constructor
  · intro sized
    cases sized with
    | absent noMap => simp [noMap]
    | sizes all =>
      obtain ⟨fit, rfl⟩ := (sizes_iff _ _).mp all
      exact ⟨fit, rfl⟩
  · rintro ⟨fit, rfl⟩
    cases v with
    | none => exact .absent rfl
    | some v =>
      cases v with
      | map es => exact .sizes ((sizes_iff es _).mpr ⟨fit, rfl⟩)
      | atom a | list items | tuple items | set members => exact .absent rfl

theorem copied_iff (name : Text) (v : Option Value) (out : Entries) :
    Copied name v out ↔ out = present name v := by
  constructor
  · intro copied
    cases copied with
    | absent | null => rfl
    | copied told =>
      unfold present
      split
      · rename_i none
        cases none
      · rename_i null
        exact absurd (Option.some.inj null) told
      · rename_i same
        rw [Option.some.inj same]
  · rintro rfl
    unfold present
    split
    · exact .absent
    · exact .null
    · rename_i told
      exact .copied told

/-- The ramps have names as their keys, so the semantic colours are laid over them. -/
theorem colors_eq_overlaid {doc : Document} (distinct : doc.Distinct) (ramps : Entries) :
    colors doc ramps = (pick rampNames ramps).overlaid (doc.group "colors.semantic") := by
  have texts : ∀ e ∈ pick rampNames ramps, ∃ name, e.1 = .text name := by
    intro e he
    obtain ⟨name, -, found⟩ := List.mem_filterMap.mp he
    obtain ⟨w, -, rfl⟩ := Option.map_eq_some_iff.mp found
    exact ⟨name, rfl⟩
  exact Entries.putAll_eq_overlaid texts (distinct.group _)

/-- A configuration is the theme with what the document extends it by. -/
theorem ofDocument_eq_ok_iff_extends {doc : Document} (distinct : doc.Distinct) (v : Value) :
    ofDocument doc = .ok v ↔ ∃ extend, Extends doc extend ∧
      v = .map [(.text "theme", .map [(.text "extend", .map extend)])] := by
  rw [ofDocument_eq_ok_iff]
  constructor
  · rintro ⟨ramps, fonts, hramps, hfonts, fit, rfl⟩
    refine ⟨_, .sections hramps hfonts ((picked_iff _ _ _).mpr rfl) ((picked_iff _ _ _).mpr rfl)
      ((sized_iff _ _).mpr ⟨fit, rfl⟩) ((copied_iff _ _ _).mpr rfl) ((copied_iff _ _ _).mpr rfl), ?_⟩
    rw [theme, sections, colors_eq_overlaid distinct]
    rfl
  · rintro ⟨extend, described, rfl⟩
    cases described with
    | @sections ramps fonts _ _ _ _ _ hramps hfonts shaded named sized rounded shadowed =>
      obtain rfl := (picked_iff _ _ _).mp shaded
      obtain rfl := (picked_iff _ _ _).mp named
      obtain ⟨fit, rfl⟩ := (sized_iff _ _).mp sized
      obtain rfl := (copied_iff _ _ _).mp rounded
      obtain rfl := (copied_iff _ _ _).mp shadowed
      refine ⟨ramps, fonts, hramps, hfonts, fit, ?_⟩
      rw [theme, sections, colors_eq_overlaid distinct]
      rfl

theorem requireMapping_eq_error_iff (doc : Document) (path : Text) (fault : TokenFault) :
    doc.requireMapping path = .error fault ↔
      ∃ cause, Lacking (doc.lookup path) cause ∧ fault = .malformed (dashed path) cause := by
  unfold Document.requireMapping
  generalize doc.lookup path = found
  constructor
  · intro failed
    split at failed
    · cases failed
    · exact ⟨_, .absent, (Except.error.inj failed).symm⟩
    · exact ⟨_, .null, (Except.error.inj failed).symm⟩
    · rename_i v noMap told
      refine ⟨_, .other told ?_, (Except.error.inj failed).symm⟩
      cases v with
      | map es => exact absurd rfl (noMap es)
      | atom a | list items | tuple items | set members => rfl
  · rintro ⟨cause, lacking, rfl⟩
    cases lacking with
    | absent | null => rfl
    | @other v told noMap =>
      cases v with
      | map es => cases noMap
      | atom a =>
        cases a with
        | null => exact absurd rfl told
        | bool b | scalar s | date d | moment t | clock c | octets bytes => rfl
      | list items | tuple items | set members => rfl

theorem fontSizes_eq_error_iff (es : Entries) (fault : TokenFault) :
    fontSizes es = .error fault ↔ ∃ before key node after, es = before ++ (key, .map node) :: after ∧
      (∀ e ∈ before, ∃ v, StandsFor e.2 v) ∧ (∀ v, ¬ StandsFor (.map node) v) ∧
      fault = unfitSize key := by
  simp only [exists_standsFor_iff, ← not_exists]
  constructor
  · intro failed
    induction es with
    | nil => cases failed
    | cons e rest ih =>
      obtain ⟨key, v⟩ := e
      by_cases fits : isSize v = true
      · rw [fontSizes_cons_of_isSize key rest fits] at failed
        cases inner : fontSizes rest with
        | ok sizes =>
          rw [inner] at failed
          cases failed
        | error f =>
          rw [inner] at failed
          cases failed
          obtain ⟨before, key', node, after, rfl, all, unfit, same⟩ := ih inner
          refine ⟨(key, v) :: before, key', node, after, rfl, ?_, unfit, same⟩
          exact List.forall_mem_cons.mpr ⟨fits, all⟩
      · rw [fontSizes_cons_of_unfit key rest fits] at failed
        cases v with
        | map node =>
          exact ⟨[], key, node, rest, rfl, by simp, fits, (Except.error.inj failed).symm⟩
        | atom a | list items | tuple items | set members => exact absurd rfl fits
  · rintro ⟨before, key, node, after, rfl, all, unfit, rfl⟩
    induction before with
    | nil => exact fontSizes_cons_of_unfit key after unfit
    | cons e before ih =>
      obtain ⟨fits, all⟩ := List.forall_mem_cons.mp all
      rw [List.cons_append, fontSizes_cons_of_isSize e.1 _ fits, ih all]
      rfl

theorem bind_entries?_eq_some {v : Option Value} {es : Entries}
    (found : v.bind Value.entries? = some es) : v = some (.map es) := by
  obtain ⟨w, rfl, entries⟩ := Option.bind_eq_some_iff.mp found
  cases w with
  | map es' => rw [Option.some.inj entries]
  | atom a | list items | tuple items | set members => cases entries

theorem dashed_colors : dashed "colors" = "colors" := by decide +kernel

theorem dashed_fontFamily : dashed "typography.fontFamily" = "typography-fontFamily" := by
  decide +kernel

theorem Fails.ofDocument_eq {doc : Document} {fault : TokenFault} (fails : Fails doc fault) :
    ofDocument doc = .error fault := by
  cases fails with
  | colors lacking =>
    have hc := (requireMapping_eq_error_iff doc "colors" _).mpr ⟨_, lacking, rfl⟩
    rw [ofDocument, hc, dashed_colors]
    rfl
  | fontFamily colors lacking =>
    have hf := (requireMapping_eq_error_iff doc "typography.fontFamily" _).mpr ⟨_, lacking, rfl⟩
    rw [ofDocument, (requireMapping_eq_ok_iff _ _ _).mpr colors, hf, dashed_fontFamily]
    rfl
  | @fontSize ramps fonts before after node key colors fontFamily sizes first unfit =>
    have read := (fontSizes_eq_error_iff _ _).mpr
      ⟨before, key, node, after, rfl, first, unfit, rfl⟩
    rw [ofDocument, (requireMapping_eq_ok_iff _ _ _).mpr colors,
      (requireMapping_eq_ok_iff _ _ _).mpr fontFamily, sizes]
    simp [Value.entries?, read, bind, Except.bind, Except.map]

-- The cases are the parts in the order they are asked for: the first that fails is the fault.
theorem fails_of_ofDocument {doc : Document} {fault : TokenFault}
    (failed : ofDocument doc = .error fault) : Fails doc fault := by
  unfold ofDocument at failed
  cases hc : doc.requireMapping "colors" with
  | error f =>
    rw [hc] at failed
    obtain ⟨cause, lacking, rfl⟩ := (requireMapping_eq_error_iff _ _ _).mp hc
    obtain rfl := Except.error.inj failed
    rw [dashed_colors]
    exact .colors lacking
  | ok ramps =>
    have colors := (requireMapping_eq_ok_iff _ _ _).mp hc
    rw [hc] at failed
    cases hf : doc.requireMapping "typography.fontFamily" with
    | error f =>
      rw [hf] at failed
      obtain ⟨cause, lacking, rfl⟩ := (requireMapping_eq_error_iff _ _ _).mp hf
      obtain rfl := Except.error.inj failed
      rw [dashed_fontFamily]
      exact .fontFamily colors lacking
    | ok fonts =>
      have fontFamily := (requireMapping_eq_ok_iff _ _ _).mp hf
      rw [hf] at failed
      cases found : (doc.lookup "typography.fontSize").bind Value.entries? with
      | none => simp [found, bind, Except.bind, pure, Except.pure] at failed
      | some es =>
        cases read : fontSizes es with
        | ok sizes => simp [found, read, bind, Except.bind, Except.map, pure, Except.pure] at failed
        | error f =>
          obtain rfl : f = fault := by
            simpa [found, read, bind, Except.bind, Except.map] using failed
          obtain ⟨before, key, node, after, rfl, first, unfit, rfl⟩ :=
            (fontSizes_eq_error_iff _ _).mp read
          exact .fontSize colors fontFamily (bind_entries?_eq_some found) first unfit

theorem ofDocument_eq_error_iff (doc : Document) (fault : TokenFault) :
    ofDocument doc = .error fault ↔ Fails doc fault :=
  ⟨fails_of_ofDocument, Fails.ofDocument_eq⟩

theorem exists_standsFor_map_iff (node : Entries) :
    (∃ v, StandsFor (.map node) v) ↔ ∃ s, node.get? valueKey = some (.scalar s) := by
  constructor
  · rintro ⟨v, stands⟩
    cases stands with
    | itself noMap => cases noMap
    | value wrapped => exact ⟨_, wrapped⟩
  · rintro ⟨s, wrapped⟩
    exact ⟨_, .value wrapped⟩

theorem exists_ofDocument_iff_complete (doc : Document) :
    (∃ v, ofDocument doc = .ok v) ↔ Complete doc := by
  simp only [ofDocument_eq_ok_iff, List.all_eq_true, ← exists_standsFor_iff]
  constructor
  · rintro ⟨v, ramps, fonts, colors, fontFamily, fit, -⟩
    refine ⟨⟨ramps, colors⟩, ⟨fonts, fontFamily⟩, fun sizes key node found here => ?_⟩
    rw [Document.group, found] at fit
    exact (exists_standsFor_map_iff node).mp (fit (key, .map node) here)
  · rintro ⟨⟨ramps, colors⟩, ⟨fonts, fontFamily⟩, fit⟩
    refine ⟨_, ramps, fonts, colors, fontFamily, fun e he => ?_, rfl⟩
    obtain ⟨key, v⟩ := e
    cases v with
    | map node =>
      rw [Document.group] at he
      cases found : (doc.lookup "typography.fontSize").bind Value.entries? with
      | none =>
        rw [found] at he
        cases he
      | some sizes =>
        rw [found] at he
        exact (exists_standsFor_map_iff node).mpr
          (fit sizes key node (bind_entries?_eq_some found) he)
    | atom a | list items | tuple items | set members => exact ⟨_, .itself rfl⟩

/-- A document whose mappings have distinct keys, as those of a loaded one have, has a configuration
just if it is complete, and fails at the first thing that it lacks. If it has a configuration, that
is the theme with the described sections. -/
theorem config_is_described {doc : Document} (distinct : doc.Distinct) :
    ((∃ v, ofDocument doc = .ok v) ↔ Complete doc) ∧
    (∀ fault, ofDocument doc = .error fault ↔ Fails doc fault) ∧
    ∀ v, ofDocument doc = .ok v ↔ ∃ extend, Extends doc extend ∧
      v = .map [(.text "theme", .map [(.text "extend", .map extend)])] :=
  ⟨exists_ofDocument_iff_complete doc, ofDocument_eq_error_iff doc,
    ofDocument_eq_ok_iff_extends distinct⟩

end UtilityConfig

/-- A semantic colour in the place of a ramp and one of its own, sizes in both forms, and null radii. -/
def Document.themed : Document :=
  [(.text "colors", .map [(.text "neutral", .text "#888"),
      (.text "primary", .map [(.int 500, .text "#00f")]),
      (.text "semantic", .map [(.text "error", .text "#f00"), (.text "neutral", .text "#777")])]),
    (.text "typography", .map [(.text "fontFamily", .map [(.text "mono", .list [.text "Mono"])]),
      (.text "fontSize", .map [(.text "sm", .int 14), (.text "lg", .map
        [(.text "lineHeight", .null), (.text "value", .text "2rem")])])]),
    (.text "borderRadius", .null)]

/-- The configuration of the document above. -/
def themedConfig : Value :=
  .map [(.text "theme", .map [(.text "extend", .map
    [(.text "colors", .map [(.text "prsm", .map [(.text "primary", .map [(.int 500, .text "#00f")]),
        (.text "neutral", .text "#777"), (.text "error", .text "#f00")])]),
      (.text "fontFamily", .map [(.text "mono", .list [.text "Mono"])]),
      (.text "fontSize", .map [(.text "sm", .int 14), (.text "lg", .text "2rem")])])])]

theorem config_is_described_themed :
    Document.themed.Distinct ∧ UtilityConfig.ofDocument .themed = .ok themedConfig ∧
      ∃ extend, UtilityConfig.Extends .themed extend ∧
        themedConfig = .map [(.text "theme", .map [(.text "extend", .map extend)])] := by
  have distinct : Document.themed.Distinct := by
    simp [Document.Distinct, Document.themed, Entries.Distinct, Atom.text_sameKey]
  have made : UtilityConfig.ofDocument .themed = .ok themedConfig := by rfl
  exact ⟨distinct, made, ((UtilityConfig.config_is_described distinct).2.2 _).mp made⟩

/-- A font size that stands for nothing under a whole number of too many digits. -/
def Document.overlongSize : Document :=
  [(.text "colors", .map []), (.text "typography", .map [(.text "fontFamily", .map []),
    (.text "fontSize", .map [(.int ((Nat.pow 10 maxDigits : Nat) : Int), .map [])])])]

/-- The size cannot be told: the document fails with an error of another class. -/
theorem overlongSize_is_not_told :
    UtilityConfig.ofDocument .overlongSize = .error .overlong ∧
      (Failure.ofFault .overlong).className ≠ "MalformedTokenError" := by
  have bound : Nat.pow 10 maxDigits ≤ ((Nat.pow 10 maxDigits : Nat) : Int).natAbs :=
    Nat.le_of_eq (Int.natAbs_natCast _).symm
  have unwritten : UtilityConfig.unfitSize (.int ((Nat.pow 10 maxDigits : Nat) : Int)) = .overlong := by
    rw [UtilityConfig.unfitSize, render?_overlong bound]
  have fails : UtilityConfig.Fails .overlongSize .overlong := by
    rw [← unwritten]
    refine @UtilityConfig.Fails.fontSize .overlongSize _ _ [] [] [] _ rfl rfl rfl (by simp)
      fun v stands => ?_
    cases stands with
    | itself noMap => cases noMap
    | value wrapped => cases wrapped
  exact ⟨(UtilityConfig.ofDocument_eq_error_iff _ _).mpr fails, by decide⟩

end DesignTokens
