import DesignTokens.Proofs.BaseSheet
import DesignTokens.Proofs.Pieces

/-!
# Positions and their paths

Every emission of a document comes from a position, which is the keys that lead to it. Different
positions may have one path, because a key may hold the dash that joins keys, be empty, or be
written like another key; then the later emission overwrites the earlier one. Keys that are spelt
plainly rule that out: their paths can be taken apart again.
-/

namespace DesignTokens

open FlatMap (ofEmissions)

/-- A key that can be told from its neighbours on a path. -/
def PlainKey (key : Text) : Prop := key ≠ "" ∧ .char '-' ∉ key.toList

theorem joinPath_of_ne {base : Text} (named : base ≠ "") (key : Text) :
    joinPath base key = base ++ "-" ++ key := by
  rw [joinPath, if_neg named]

theorem joinPath_ne_empty {base : Text} (named : base ≠ "") (key : Text) :
    joinPath base key ≠ "" := by
  rw [joinPath_of_ne named]
  intro h
  have length := congrArg Text.length h
  simp [Text.length_append] at length

/-- A path that continues another is that one with every key behind a dash. -/
theorem path_of_ne {base : Text} (named : base ≠ "") (keys : List Text) :
    keys.foldl joinPath base = base ++ Text.join (keys.map ("-" ++ ·)) := by
  induction keys generalizing base with
  | nil => simp
  | cons key rest ih =>
    rw [List.foldl_cons, ih (joinPath_ne_empty named key), joinPath_of_ne named, List.map_cons,
      Text.join_cons, Text.append_assoc, Text.append_assoc, Text.append_assoc]

/-- A path of its own that starts with a key. -/
theorem path_of_cons {key : Text} (named : key ≠ "") (rest : List Text) :
    (key :: rest).foldl joinPath "" = key ++ Text.join (rest.map ("-" ++ ·)) := by
  have start : joinPath "" key = key := if_pos rfl
  rw [List.foldl_cons, start, path_of_ne named]

/-- A path that continues another is the pieces of that one and the keys that follow. -/
theorem pieces_path_of_ne {base : Text} (named : base ≠ "") {keys : List Text}
    (plain : ∀ key ∈ keys, PlainKey key) :
    Text.pieces (.char '-') (keys.foldl joinPath base).toList =
      Text.pieces (.char '-') base.toList ++ keys.map Text.toList := by
  induction keys generalizing base with
  | nil => simp
  | cons key rest ih =>
    have first := plain key List.mem_cons_self
    have joined : Text.pieces (.char '-') (joinPath base key).toList =
        Text.pieces (.char '-') base.toList ++ [key.toList] := by
      have chars : (joinPath base key).toList = base.toList ++ .char '-' :: key.toList := by
        rw [joinPath_of_ne named]
        simp
      rw [chars, Text.pieces_append, Text.pieces_of_notMem first.2]
    rw [List.foldl_cons, ih (joinPath_ne_empty named key) fun k hk =>
      plain k (List.mem_cons_of_mem _ hk), joined, List.map_cons, List.append_assoc]
    rfl

/-- A path of its own is taken apart into its keys. -/
theorem pieces_path {keys : List Text} (some_ : keys ≠ [])
    (plain : ∀ key ∈ keys, PlainKey key) :
    Text.pieces (.char '-') (keys.foldl joinPath "").toList = keys.map Text.toList := by
  cases keys with
  | nil => exact absurd rfl some_
  | cons key rest =>
    have first := plain key List.mem_cons_self
    have start : joinPath "" key = key := if_pos rfl
    rw [List.foldl_cons, start, pieces_path_of_ne first.1 fun k hk =>
      plain k (List.mem_cons_of_mem _ hk), Text.pieces_of_notMem first.2]
    rfl

theorem toList_map_injective {keys keys' : List Text}
    (same : keys.map Text.toList = keys'.map Text.toList) : keys = keys' :=
  List.map_injective_iff.mpr (fun _ _ h => Text.toList_inj.mp h) same

/-- Paths of plain keys are equal only if the keys are. -/
theorem path_injective {base : Text} {keys keys' : List Text} (some_ : keys ≠ [])
    (some' : keys' ≠ []) (plain : ∀ key ∈ keys, PlainKey key)
    (plain' : ∀ key ∈ keys', PlainKey key)
    (same : keys.foldl joinPath base = keys'.foldl joinPath base) : keys = keys' := by
  apply toList_map_injective
  by_cases named : base = ""
  · subst named
    rw [← pieces_path some_ plain, ← pieces_path some' plain', same]
  · have pieces := pieces_path_of_ne named plain
    rw [same, pieces_path_of_ne named plain'] at pieces
    exact (List.append_cancel_left pieces).symm

def Visit.position? (v : Visit) : Option (List Text) :=
  match v.finding with
  | .token _ => some v.keys
  | .malformed _ | .unwritten => none

/-- The positions of the emissions of some visits. -/
def positions (visits : List Visit) : List (List Text) := visits.filterMap Visit.position?

theorem positions_append (visits more : List Visit) :
    positions (visits ++ more) = positions visits ++ positions more :=
  List.filterMap_append

theorem positions_under (key : Text) (visits : List Visit) :
    positions (visits.map (.under key)) = (positions visits).map (key :: ·) := by
  rw [positions, positions, List.filterMap_map, List.map_filterMap]
  refine List.filterMap_congr fun v _ => ?_
  obtain ⟨keys, finding⟩ := v
  cases finding <;> rfl

/-- A visit of the position itself leads on to no key. -/
theorem positions_here (f : Finding) :
    (positions [.here f]).Nodup ∧ ∀ p ∈ positions [.here f], ∀ k ∈ p, PlainKey k := by
  cases f with
  | token s => simp [positions, Visit.here, Visit.position?]
  | malformed cause => exact ⟨List.nodup_nil, fun _ h => absurd h List.not_mem_nil⟩
  | unwritten => exact ⟨List.nodup_nil, fun _ h => absurd h List.not_mem_nil⟩

theorem paths_eq_positions (base : Text) (doc : Document) :
    (doc.emissions base).map Prod.fst =
      (positions doc.visits).map fun keys => keys.foldl joinPath base := by
  rw [Document.emissions, positions, List.map_filterMap, List.map_filterMap]
  refine List.filterMap_congr fun v _ => ?_
  obtain ⟨keys, finding⟩ := v
  cases finding <;> rfl

mutual

/-- The keys below a value are plain and, inside one mapping, all different. A metadata key itself
need not be, but the keys below it have to be. -/
def Value.Spelt : Value → Prop
  | .map entries => SpeltEntries entries
  | _ => True

def SpeltEntries : List (Atom × Value) → Prop
  | [] => True
  | (key, v) :: rest =>
    (∀ text, key.render? = some text → isMetadataKey text = false →
      PlainKey text ∧ ∀ e ∈ rest, e.1.render? ≠ some text) ∧
    v.Spelt ∧ SpeltEntries rest

end

def Document.Spelt (doc : Document) : Prop := SpeltEntries doc

/-- What holds of the positions below a mapping: each starts with a key of the mapping, all keys are
plain, and no two positions are the same. -/
structure GoodPositions (es : Entries) (ps : List (List Text)) : Prop where
  heads : ∀ p ∈ ps, ∃ key rest, p = key :: rest ∧ ∃ e ∈ es, e.1.render? = some key
  plain : ∀ p ∈ ps, ∀ key ∈ p, PlainKey key
  nodup : ps.Nodup

theorem goodPositions_nil : GoodPositions [] [] :=
  ⟨fun _ h => absurd h List.not_mem_nil, fun _ h => absurd h List.not_mem_nil, List.nodup_nil⟩

theorem GoodPositions.behind {es : Entries} {ps : List (List Text)} (good : GoodPositions es ps)
    (e : Atom × Value) : GoodPositions (e :: es) ps where
  heads p hp := by
    obtain ⟨key, rest, split, e', member, rendered⟩ := good.heads p hp
    exact ⟨key, rest, split, e', List.mem_cons_of_mem _ member, rendered⟩
  plain := good.plain
  nodup := good.nodup

/-- Positions below a key that no other entry has go in front of those of the other entries. -/
theorem GoodPositions.append_under {key : Atom} {v : Value} {text : Text} {rest : Entries}
    {own ps : List (List Text)} (good : GoodPositions rest ps) (rendered : key.render? = some text)
    (plainText : PlainKey text) (fresh : ∀ e ∈ rest, e.1.render? ≠ some text) (nodup : own.Nodup)
    (plain : ∀ p ∈ own, ∀ k ∈ p, PlainKey k) :
    GoodPositions ((key, v) :: rest) (own.map (text :: ·) ++ ps) where
  heads p hp := by
    rcases List.mem_append.mp hp with hp | hp
    · obtain ⟨q, -, rfl⟩ := List.mem_map.mp hp
      exact ⟨text, q, rfl, (key, v), List.mem_cons_self, rendered⟩
    · exact (good.behind (key, v)).heads p hp
  plain p hp k hkp := by
    rcases List.mem_append.mp hp with hp | hp
    · obtain ⟨q, hq, rfl⟩ := List.mem_map.mp hp
      rcases List.mem_cons.mp hkp with rfl | hkq
      · exact plainText
      · exact plain q hq k hkq
    · exact good.plain p hp k hkp
  nodup := by
    refine List.nodup_append.mpr ⟨nodup.map fun _ _ h => (List.cons.inj h).2, good.nodup, ?_⟩
    -- Positions of different entries part at their first key.
    intro p hp p' hp' heq
    obtain ⟨q, -, rfl⟩ := List.mem_map.mp hp
    obtain ⟨k, tail, hpk, e, he, hek⟩ := good.heads p' hp'
    rw [← heq] at hpk
    exact fresh e he ((List.cons.inj hpk).1 ▸ hek)

/-- One more entry in front keeps the positions good if its own are. -/
theorem GoodPositions.cons {key : Atom} {v : Value} {rest : Entries} {ps : List (List Text)}
    {visits : Text → List Visit} (good : GoodPositions rest ps)
    (spelt : ∀ text, key.render? = some text → isMetadataKey text = false →
      PlainKey text ∧ ∀ e ∈ rest, e.1.render? ≠ some text)
    (own : ∀ text, (positions (visits text)).Nodup ∧
      ∀ p ∈ positions (visits text), ∀ k ∈ p, PlainKey k) :
    GoodPositions ((key, v) :: rest) (positions (visitsUnder key visits) ++ ps) := by
  cases hk : key.render? with
  | none =>
    have visited : visitsUnder key visits = [.here .unwritten] := by rw [visitsUnder, hk]
    rw [visited]
    exact good.behind (key, v)
  | some text =>
    cases hm : isMetadataKey text with
    | true =>
      have visited : visitsUnder key visits = [] := by simp [visitsUnder, hk, hm]
      rw [visited]
      exact good.behind (key, v)
    | false =>
      have visited : visitsUnder key visits = (visits text).map (.under text) := by
        simp [visitsUnder, hk, hm]
      obtain ⟨plainText, fresh⟩ := spelt text hk hm
      obtain ⟨nodup, plain⟩ := own text
      rw [visited, positions_under]
      exact good.append_under hk plainText fresh nodup plain

theorem goodPositions_fonts {es : Entries} (spelt : SpeltEntries es) :
    GoodPositions es (positions (fontVisits es)) := by
  induction es with
  | nil => exact goodPositions_nil
  | cons e rest ih =>
    obtain ⟨key, fonts⟩ := e
    rw [SpeltEntries] at spelt
    rw [fontVisits, positions_append]
    exact (ih spelt.2.2).cons spelt.1 fun _ => positions_here (.ofRole fonts)

theorem positions_ofDefault (default : Value) (vs : List Visit) :
    positions (.ofDefault default :: vs) = positions vs ∨
      positions (.ofDefault default :: vs) = [] :: positions vs := by
  rw [positions, Visit.ofDefault]
  cases default.scalar? with
  | none => exact Or.inl rfl
  | some s => exact Or.inr rfl

/-- A default adds the group itself, which is no position below it: those have a key at least. -/
theorem GoodPositions.default {es : Entries} {vs : List Visit} (good : GoodPositions es (positions vs))
    (default : Value) : (positions (.ofDefault default :: vs)).Nodup ∧
      ∀ p ∈ positions (.ofDefault default :: vs), ∀ k ∈ p, PlainKey k := by
  rcases positions_ofDefault default vs with same | front
  · rw [same]
    exact ⟨good.nodup, good.plain⟩
  · rw [front]
    refine ⟨List.nodup_cons.mpr ⟨fun h => ?_, good.nodup⟩,
      List.forall_mem_cons.mpr ⟨fun _ hk => absurd hk List.not_mem_nil, good.plain⟩⟩
    obtain ⟨k, tail, hk, -⟩ := good.heads [] h
    cases hk

mutual

theorem positions_value (key : Text) : ∀ (v : Value), v.Spelt →
    (positions (v.visits key)).Nodup ∧ ∀ p ∈ positions (v.visits key), ∀ k ∈ p, PlainKey k
  | .atom a, _ => by
    cases a <;> exact positions_here _
  | .list items, _ => positions_here _
  | .tuple items, _ => positions_here _
  | .set members, _ => positions_here _
  | .map node, spelt => by
    rw [Value.Spelt] at spelt
    rw [Value.visits]
    cases hw : (Entries.get? node valueKey).bind Value.scalar? with
    | some s => exact positions_here (.token s)
    | none =>
      have below := goodPositions_entries node spelt
      cases hd : Entries.get? node defaultKey with
      | none =>
        by_cases hf : key = fontFamilyKey
        · have fonts := goodPositions_fonts spelt
          simp only [hf, if_true]
          exact ⟨fonts.nodup, fonts.plain⟩
        · simp only [hf, if_false]
          exact ⟨below.nodup, below.plain⟩
      | some default => exact below.default default

theorem goodPositions_entries : ∀ (es : List (Atom × Value)), SpeltEntries es →
    GoodPositions es (positions (entryVisits es))
  | [], _ => goodPositions_nil
  | (key, v) :: rest, spelt => by
    rw [SpeltEntries] at spelt
    rw [entryVisits, positions_append]
    exact (goodPositions_entries rest spelt.2.2).cons spelt.1
      fun text => positions_value text v spelt.2.1

end

/-- The emissions of a plainly spelt document have paths of their own. -/
theorem nodup_paths_of_spelt (base : Text) {doc : Document} (spelt : doc.Spelt) :
    ((doc.emissions base).map Prod.fst).Nodup := by
  have good := goodPositions_entries doc spelt
  have named : ∀ p ∈ positions doc.visits, p ≠ [] := by
    intro p hp
    obtain ⟨k, tail, rfl, -⟩ := good.heads p hp
    exact List.cons_ne_nil _ _
  rw [paths_eq_positions]
  refine good.nodup.map_on fun p hp p' hp' same => ?_
  exact path_injective (named p hp) (named p' hp') (good.plain p hp) (good.plain p' hp') same

theorem ofEmissions_eq_self_iff (es : List (Text × Scalar)) :
    ofEmissions es = es ↔ (es.map Prod.fst).Nodup := by
  constructor
  · intro same
    have paths := FlatMap.paths_putAll es
    rw [FlatMap.putAll_eq_ofEmissions, same] at paths
    rw [← FlatMap.paths, paths]
    exact nodup_eraseDups _
  · intro nodup
    have reversed : (es.reverse.map Prod.fst).Nodup := by
      rw [List.map_reverse]
      exact List.nodup_reverse.mpr nodup
    have answers : ∀ path ∈ es.map Prod.fst, es.reverse.lookup path = es.lookup path := by
      intro path hpath
      obtain ⟨e, he, rfl⟩ := List.mem_map.mp hpath
      rw [lookup_of_mem reversed (List.mem_reverse.mpr he), lookup_of_mem nodup he]
    have once : (es.map Prod.fst).eraseDups = es.map Prod.fst := eraseDups_eq_self nodup
    rw [ofEmissions, once, List.filterMap_congr fun path hpath => by rw [answers path hpath]]
    exact filterMap_lookup_keys nodup

theorem length_ofEmissions_eq_iff (es : List (Text × Scalar)) :
    (ofEmissions es).length = es.length ↔ (es.map Prod.fst).Nodup := by
  have length : (ofEmissions es).length = (es.map Prod.fst).eraseDups.length := by
    rw [← FlatMap.paths_putAll, FlatMap.putAll_eq_ofEmissions, FlatMap.paths, List.length_map]
  rw [length, ← List.length_map Prod.fst, length_eraseDups_eq_iff]

theorem FlatMap.WrittenAs.exists_mem {flat : FlatMap} {ds : Declarations}
    (as : flat.WrittenAs ds) {e : Text × Scalar} (he : e ∈ flat) :
    ∃ text, e.2.css = .ok text ∧ (e.1, text) ∈ ds := by
  induction as with
  | nil => cases he
  | @cons e' d _ _ first _ ih =>
    obtain ⟨path, css⟩ := first
    rcases List.mem_cons.mp he with rfl | he
    · exact ⟨d.2, css, path ▸ List.mem_cons_self⟩
    · obtain ⟨text, hcss, hd⟩ := ih he
      exact ⟨text, hcss, List.mem_cons_of_mem _ hd⟩

/-- Every declaration stands in the section of its category. -/
theorem Sheet.mem_sections {ds : Declarations} {d : Text × Text} (hd : d ∈ ds) :
    fixed (variableName d.1) d.2 ∈ sections ds := by
  have listed : Category.ofPath d.1 ∈ Category.all := by
    cases Category.ofPath d.1 <;> decide
  have here : d ∈ ds.inCategory (Category.ofPath d.1) :=
    List.mem_filter.mpr ⟨hd, decide_eq_true rfl⟩
  refine List.mem_flatMap.mpr ⟨_, listed, ?_⟩
  dsimp only
  rw [if_neg fun h => List.ne_nil_of_mem here h.2]
  refine List.mem_cons_of_mem _ (List.mem_append_left _ ?_)
  exact List.mem_map.mpr ⟨d, here, rfl⟩

/-- The base style sheet declares every entry of the flat map with the text of its value. -/
theorem Sheet.declared {flat : FlatMap} {ds : Declarations}
    (written : flat.declarations = .ok ds) {e : Text × Scalar} (he : e ∈ flat) :
    ∃ text, e.2.css = .ok text ∧ fixed (variableName e.1) text ∈ sections ds := by
  obtain ⟨text, css, hd⟩ := ((flat.declarations_eq_ok_iff ds).mp written).exists_mem he
  exact ⟨text, css, mem_sections hd⟩

/-- A flat map has as many entries as the document has emissions, and is just the list of them, if
no two emissions have one path, and not otherwise. In a plainly spelt document none have. What is in
the flat map is declared. -/
theorem emissions_kept_iff {base : Text} {doc : Document} {flat : FlatMap}
    (returned : doc.flattenUnder base = .ok flat) :
    (flat.length = (doc.emissions base).length ↔ ((doc.emissions base).map Prod.fst).Nodup) ∧
      (flat = doc.emissions base ↔ ((doc.emissions base).map Prod.fst).Nodup) ∧
      (doc.Spelt → flat = doc.emissions base) ∧
      ∀ ds, flat.declarations = .ok ds → ∀ e ∈ flat, ∃ text, e.2.css = .ok text ∧
        Sheet.fixed (variableName e.1) text ∈ Sheet.sections ds := by
  obtain ⟨-, rfl⟩ := (flattenUnder_eq_ok_iff base doc flat).mp returned
  refine ⟨length_ofEmissions_eq_iff _, ofEmissions_eq_self_iff _, fun spelt => ?_,
    fun ds written e he => Sheet.declared written he⟩
  exact (ofEmissions_eq_self_iff _).mpr (nodup_paths_of_spelt base spelt)

/-- A group with a default beside its other tokens, a wrapper with a unit, and metadata. -/
def Document.ramp : Document :=
  [(.text "colors", .map [(.text "$a-b", .null), (.text "primary", .map
      [(.text "DEFAULT", .text "#00f"), (.text "50", .text "#eef")])]),
    (.text "gap", .map [(.text "value", .text "1rem"), (.text "unit", .text "rem")])]

def rampFlat : FlatMap :=
  [("p-colors-primary", .text "#00f"), ("p-colors-primary-DEFAULT", .text "#00f"),
    ("p-colors-primary-50", .text "#eef"), ("p-gap", .text "1rem")]

theorem emissions_kept_iff_ramp :
    Document.ramp.flattenUnder "p" = .ok rampFlat ∧ Document.ramp.Spelt ∧
      rampFlat = Document.ramp.emissions "p" := by
  have returned : Document.ramp.flattenUnder "p" = .ok rampFlat := by rfl
  have spelt : Document.ramp.Spelt := by
    simp [Document.Spelt, Document.ramp, SpeltEntries, Value.Spelt, PlainKey, Atom.render?,
      Scalar.render?, isMetadataKey]
  exact ⟨returned, spelt, (emissions_kept_iff returned).2.2.1 spelt⟩

/-- A key with a dash, which is written like the keys of a nested token. -/
def Document.colliding : Document :=
  [(.text "a", .map [(.text "b", .int 1)]), (.text "a-b", .int 2)]

/-- Flattening succeeds and the first of two tokens is gone. -/
theorem colliding_loses_emission :
    Document.colliding.flatten = .ok [("a-b", .int 2)] ∧
      Document.colliding.emissions "" = ([("a-b", .int 1), ("a-b", .int 2)] : FlatMap) :=
  ⟨rfl, rfl⟩

end DesignTokens
