import DesignTokens.Proofs.Positions

/-!
# Paths that continue another path

Flattening a document below a path puts the path and a dash in front of every path that the document
has by itself, and changes nothing else. The keys at the top of the document must not be empty:
behind an empty one the paths of the document start afresh, while those below a path go on with one
dash more.
-/

namespace DesignTokens

/-- A flat map with a path and a dash in front of all its paths. -/
def FlatMap.under (base : Text) (flat : FlatMap) : FlatMap :=
  flat.map (Prod.map (base ++ "-" ++ ·) id)

/-- A fault with a path and a dash in front of the path that it names. -/
def TokenFault.under (base : Text) : TokenFault → TokenFault
  | .malformed path cause => .malformed (base ++ "-" ++ path) cause
  | .overlong => .overlong

/-- No key at the top of a document is written as the empty text; keys further down may be. -/
def Document.Named (doc : Document) : Prop := ∀ e ∈ doc, e.1.render? ≠ some ""

/-- A path with keys in it goes on from another one as it is, if its first key is not empty. -/
theorem path_continues {base key : Text} (some_ : base ≠ "") (named : key ≠ "")
    (rest : List Text) :
    (key :: rest).foldl joinPath base = base ++ "-" ++ (key :: rest).foldl joinPath "" := by
  rw [path_of_ne some_, path_of_cons named, List.map_cons, Text.join_cons]
  simp only [Text.append_assoc]

theorem path_ne_empty {key : Text} (named : key ≠ "") (rest : List Text) :
    (key :: rest).foldl joinPath "" ≠ "" := by
  intro empty
  rw [path_of_cons named] at empty
  exact named (Text.append_eq_empty_iff.mp empty).1

/-- What a visit emits or fails with below a path is what it does by itself, with the path in front. -/
structure Visit.Continues (base : Text) (v : Visit) : Prop where
  emission : v.emission? base = (v.emission? "").map (Prod.map (base ++ "-" ++ ·) id)
  fault : v.fault? base = (v.fault? "").map (TokenFault.under base)
  named : ∀ path cause, v.fault? "" = some (.malformed path cause) → path ≠ ""

section

variable {doc : Document} {base : Text}

theorem Document.Named.continues (named : doc.Named) (some_ : base ≠ "") {v : Visit}
    (visited : v ∈ doc.visits) : v.Continues base := by
  rcases doc.keys_of_mem_visits visited with rfl | ⟨key, rest, keys, e, he, written⟩
  · -- A key that cannot be written is no part of any path.
    constructor
    · rfl
    · rfl
    · intro path cause found
      cases found
  · have first : key ≠ "" := by
      intro empty
      rw [empty] at written
      exact named e he written
    have path : v.path base = base ++ "-" ++ v.path "" := by
      rw [Visit.path, Visit.path, keys]
      exact path_continues some_ first rest
    have some' : v.path "" ≠ "" := by
      rw [Visit.path, keys]
      exact path_ne_empty first rest
    obtain ⟨_, finding⟩ := v
    constructor
    · cases finding with
      | token s => simp [Visit.emission?, path]
      | malformed cause => rfl
      | unwritten => rfl
    · cases finding with
      | token s => rfl
      | malformed cause => simp [Visit.fault?, path, TokenFault.under]
      | unwritten => rfl
    · intro path' cause found
      cases finding with
      | token s => cases found
      | malformed cause =>
        cases found
        exact some'
      | unwritten => cases found

theorem Document.Named.emissions_under (named : doc.Named) (some_ : base ≠ "") :
    doc.emissions base = (doc.emissions "").map (Prod.map (base ++ "-" ++ ·) id) := by
  rw [Document.emissions, Document.emissions, List.map_filterMap]
  exact List.filterMap_congr fun v visited => (named.continues some_ visited).emission

theorem Document.Named.flattenUnder_eq_ok (named : doc.Named) (some_ : base ≠ "") {flat : FlatMap}
    (flattened : doc.flatten = .ok flat) : doc.flattenUnder base = .ok (flat.under base) := by
  have apart : Function.Injective (base ++ "-" ++ ·) := by
    intro path path' same
    exact Text.append_right_inj.mp same
  obtain ⟨clean, rfl⟩ := (flattenUnder_eq_ok_iff "" doc flat).mp flattened
  rw [flattenUnder_eq_ok_iff]
  constructor
  · rw [List.findSome?_eq_none_iff] at clean ⊢
    intro v visited
    rw [(named.continues some_ visited).fault, clean v visited, Option.map_none]
  · rw [named.emissions_under some_, FlatMap.ofEmissions_map apart, FlatMap.under]

/-- The first position at fault is the same one below a path. -/
theorem Document.Named.flattenUnder_eq_error (named : doc.Named) (some_ : base ≠ "")
    {fault : TokenFault} (failed : doc.flatten = .error fault) :
    doc.flattenUnder base = .error (fault.under base) ∧
      ∃ before v after, doc.visits = before ++ v :: after ∧ (∀ u ∈ before, ¬ u.Faulty) ∧
        v.fault? "" = some fault ∧ v.fault? base = some (fault.under base) := by
  have first := (flattenUnder_eq_error_iff "" doc fault).mp failed
  obtain ⟨before, v, after, split, found, clean⟩ := List.findSome?_eq_some_iff.mp first
  have visited {u : Visit} (here : u ∈ before ++ v :: after) : u.Continues base :=
    named.continues some_ (split ▸ here)
  have found' : v.fault? base = some (fault.under base) := by
    rw [(visited (by simp)).fault, found, Option.map_some]
  constructor
  · -- In front of the first fault there is none below a path either.
    rw [flattenUnder_eq_error_iff, List.findSome?_eq_some_iff]
    refine ⟨before, v, after, split, found', ?_⟩
    intro u hu
    rw [(visited (List.mem_append_left _ hu)).fault, clean u hu, Option.map_none]
  · refine ⟨before, v, after, split, ?_, found, found'⟩
    intro u hu
    exact (Visit.fault?_eq_none_iff "" u).mp (clean u hu)

end

theorem Failure.ofFault_malformed {path : Text} (some_ : path ≠ "") (cause : Malformation) :
    Failure.ofFault (.malformed path cause) =
      .theme ⟨.malformedToken, cause.message, some ⟨some path, none⟩⟩ := by
  simp [ofFault, ThemeError.malformed, Option.filter, some_]

/-- Flattening below a path succeeds just if it does for the document by itself. Then the flat map
has the path and a dash in front of each of its paths, and the same scalars in the same order; and a
failure is that of the same position, with the same message and the path in front of the one it names.
Only the keys at the top need some text for that. -/
theorem flattening_continues {doc : Document} (named : doc.Named) {base : Text}
    (some_ : base ≠ "") :
    ((∃ flat, doc.flattenUnder base = .ok flat) ↔ ∃ flat, doc.flatten = .ok flat) ∧
      (∀ flat, doc.flatten = .ok flat → doc.flattenUnder base = .ok (flat.under base)) ∧
      ∀ fault, doc.flatten = .error fault → doc.flattenUnder base = .error (fault.under base) ∧
        (∃ before v after, doc.visits = before ++ v :: after ∧ (∀ u ∈ before, ¬ u.Faulty) ∧
          v.fault? "" = some fault ∧ v.fault? base = some (fault.under base)) ∧
        ∀ path cause, fault = .malformed path cause →
          Failure.ofFault fault =
              .theme ⟨.malformedToken, cause.message, some ⟨some path, none⟩⟩ ∧
            Failure.ofFault (fault.under base) =
              .theme ⟨.malformedToken, cause.message, some ⟨some (base ++ "-" ++ path), none⟩⟩ := by
  refine ⟨?_, ?_, ?_⟩
  · constructor
    · rintro ⟨flat, flattened⟩
      cases result : doc.flatten with
      | ok flat => exact ⟨flat, rfl⟩
      | error fault =>
        rw [(named.flattenUnder_eq_error some_ result).1] at flattened
        cases flattened
    · rintro ⟨flat, flattened⟩
      exact ⟨_, named.flattenUnder_eq_ok some_ flattened⟩
  · intro flat flattened
    exact named.flattenUnder_eq_ok some_ flattened
  · intro fault failed
    obtain ⟨failed', before, v, after, split, clean, found, found'⟩ :=
      named.flattenUnder_eq_error some_ failed
    refine ⟨failed', ⟨before, v, after, split, clean, found, found'⟩, ?_⟩
    rintro path cause rfl
    have visited : v ∈ doc.visits := split ▸ by simp
    have some' := (named.continues some_ visited).named path cause found
    have continued : base ++ "-" ++ path ≠ "" := by
      intro empty
      exact some' (Text.append_eq_empty_iff.mp empty).2
    exact ⟨Failure.ofFault_malformed some' cause, Failure.ofFault_malformed continued cause⟩

/-- An empty key below a group, which is joined to the path of another key at the top. -/
def Document.stacked : Document :=
  [(.text "a", .map [(.text "", .map [(.text "b", .int 1)]), (.text "DEFAULT", .text "x")]),
    (.text "a--b", .int 2), (.bool true, .map [(.text "value", .text "1rem")])]

def stackedFlat : FlatMap :=
  [("a", .text "x"), ("a--b", .int 2), ("a-DEFAULT", .text "x"), ("True", .text "1rem")]

/-- A list outside of the families of fonts. -/
def Document.unlisted : Document := [(.text "a", .map [(.text "b", .list [.text "serif"])])]

theorem flattening_continues_stacked :
    Document.stacked.Named ∧ Document.unlisted.Named ∧ ("p" : Text) ≠ "" ∧
      Document.stacked.flatten = .ok stackedFlat ∧
      Document.stacked.flattenUnder "p" = .ok (stackedFlat.under "p") ∧
      Document.unlisted.flatten = .error (.malformed "a-b" (.unsupported .list)) ∧
      Document.unlisted.flattenUnder "p" = .error (.malformed "p-a-b" (.unsupported .list)) := by
  have named : Document.stacked.Named ∧ Document.unlisted.Named := by
    simp [Document.Named, Document.stacked, Document.unlisted, Atom.render?, Atom.inner?,
      Scalar.render?]
  have some_ : ("p" : Text) ≠ "" := by decide
  have flattened : Document.stacked.flatten = .ok stackedFlat := rfl
  have failed : Document.unlisted.flatten = .error (.malformed "a-b" (.unsupported .list)) := rfl
  exact ⟨named.1, named.2, some_, flattened,
    (flattening_continues named.1 some_).2.1 stackedFlat flattened, failed,
    ((flattening_continues named.2 some_).2.2 _ failed).1⟩

end DesignTokens
