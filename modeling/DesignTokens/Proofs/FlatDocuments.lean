import DesignTokens.Proofs.Decoding

/-!
# Flat maps as documents

A flat map is a document of scalars with its paths for keys. No key that leads to a token starts with
a dollar sign, so no path does, wherever it starts afresh behind an empty key. Hence no entry of that
document is metadata, and flattening it gives the map back.
-/

namespace DesignTokens

/-- The document that has the entries of a flat map at its top. -/
def FlatMap.document (flat : FlatMap) : Document := flat.map fun e => (.text e.1, .scalar e.2)

theorem isMetadataKey_joinPath {base key : Text} (plainBase : isMetadataKey base = false)
    (plainKey : isMetadataKey key = false) : isMetadataKey (joinPath base key) = false := by
  by_cases empty : base = ""
  · rw [joinPath, if_pos empty]
    exact plainKey
  · have some_ : base.toList ≠ [] := by
      intro none
      exact empty (Text.toList_inj.mp none)
    rw [joinPath_of_ne empty, isMetadataKey, Text.append_assoc, Text.toList_append,
      List.head?_append_of_ne_nil _ some_]
    exact plainBase

theorem isMetadataKey_path {base : Text} (plainBase : isMetadataKey base = false)
    {keys : List Text} (plain : ∀ key ∈ keys, isMetadataKey key = false) :
    isMetadataKey (keys.foldl joinPath base) = false := by
  induction keys generalizing base with
  | nil => exact plainBase
  | cons key rest ih =>
    obtain ⟨first, others⟩ := List.forall_mem_cons.mp plain
    apply ih
    · exact isMetadataKey_joinPath plainBase first
    · exact others

theorem Value.Reads.plain {v : Value} {name : Text} {position : List Atom} {s : Scalar}
    (reads : v.Reads name position s) {keys : List Text} (spells : Spells position keys) :
    ∀ key ∈ keys, isMetadataKey key = false := by
  induction reads generalizing keys with
  | scalar | wrapper | default =>
    cases spells
    exact List.forall_mem_nil _
  | entry _ _ _ written plain _ ih =>
    cases spells with
    | cons spelt rest =>
      obtain rfl := Option.some.inj (written.symm.trans spelt)
      exact List.forall_mem_cons.mpr ⟨plain, ih rest⟩
  | role _ _ _ written plain _ =>
    cases spells with
    | cons spelt rest =>
      cases rest
      obtain rfl := Option.some.inj (written.symm.trans spelt)
      exact List.forall_mem_singleton.mpr plain

theorem Document.Reads.plain {doc : Document} {position : List Atom} {s : Scalar}
    (reads : doc.Reads position s) {keys : List Text} (spells : Spells position keys) :
    ∀ key ∈ keys, isMetadataKey key = false := by
  cases reads with
  | entry _ written plain below =>
    cases spells with
    | cons spelt rest =>
      obtain rfl := Option.some.inj (written.symm.trans spelt)
      exact List.forall_mem_cons.mpr ⟨plain, below.plain rest⟩

theorem isMetadataKey_of_flatten {doc : Document} {flat : FlatMap}
    (flattened : doc.flatten = .ok flat) : ∀ e ∈ flat, isMetadataKey e.1 = false := by
  intro e he
  have emitted : e.1 ∈ (doc.emissions "").map Prod.fst := by
    rw [← List.mem_eraseDups, ← paths_of_flattenUnder flattened]
    exact List.mem_map_of_mem he
  obtain ⟨⟨path, s⟩, emits, named⟩ := List.mem_map.mp emitted
  obtain ⟨keys, visited, joined⟩ := (mem_emissions_iff doc "" path s).mp emits
  obtain ⟨position, reads, spells⟩ := (doc.mem_visits_iff_reads keys s).mp visited
  rw [← named, joined]
  exact isMetadataKey_path rfl (reads.plain spells)

theorem visits_document {flat : FlatMap} (plain : ∀ e ∈ flat, isMetadataKey e.1 = false) :
    flat.document.visits = flat.map fun e => ⟨[e.1], .token e.2⟩ := by
  rw [Document.visits, FlatMap.document, entryVisits_eq_flatMap, List.flatMap_map,
    ← List.flatMap_singleton' (flat.map _), List.flatMap_map]
  apply List.flatMap_congr
  intro e he
  simp [visitsUnder, Atom.render?, Scalar.render?, plain e he, Value.visits, Visit.under, Visit.here]

theorem emissions_document {flat : FlatMap} (plain : ∀ e ∈ flat, isMetadataKey e.1 = false) :
    flat.document.emissions "" = flat := by
  rw [Document.emissions, visits_document plain, List.filterMap_map]
  exact List.filterMap_some

/-- The flat map of a document is the flat map of itself: it has no metadata in it, and nothing but
scalars. -/
theorem flattening_is_idempotent {doc : Document} {flat : FlatMap}
    (flattened : doc.flatten = .ok flat) :
    flat.document.flatten = .ok flat ∧
      ∀ e ∈ flat.document, (∃ path, e.1 = .text path ∧ isMetadataKey path = false) ∧
        e.2.isScalar := by
  have plain := isMetadataKey_of_flatten flattened
  constructor
  · apply (flattenUnder_eq_ok_iff "" flat.document flat).mpr
    constructor
    · rw [visits_document plain, List.findSome?_eq_none_iff]
      intro v visited
      obtain ⟨e, -, rfl⟩ := List.mem_map.mp visited
      rfl
    · -- Nothing is overwritten, because the paths of a flat map are distinct.
      rw [emissions_document plain]
      exact ((ofEmissions_eq_self_iff flat).mpr (Sheet.nodup_paths_of_flatten flattened)).symm
  · intro e he
    obtain ⟨entry, here, rfl⟩ := List.mem_map.mp he
    exact ⟨⟨entry.1, rfl, plain entry here⟩, rfl⟩

/-- Empty keys, behind which paths start afresh, with metadata below and next to them. -/
def Document.restarting : Document :=
  [(.text "", .map [(.text "$note", .null), (.text "gap", .int 4), (.text "", .map
      [(.text "$a", .int 1), (.text "b", .map [(.text "", .text "x")])])]),
    (.text "fontFamily", .map [(.text "", .list [.text "Open Sans", .text "serif"])])]

def restartingFlat : FlatMap :=
  [("gap", .int 4), ("b-", .text "x"), ("fontFamily-", .text "\"Open Sans\", serif")]

theorem flattening_is_idempotent_restarting :
    Document.restarting.flatten = .ok restartingFlat ∧
      restartingFlat.document.flatten = .ok restartingFlat := by
  have flattened : Document.restarting.flatten = .ok restartingFlat := by rfl
  exact ⟨flattened, (flattening_is_idempotent flattened).1⟩

end DesignTokens
