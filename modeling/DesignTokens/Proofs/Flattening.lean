import DesignTokens.Proofs.FlatMap
import DesignTokens.Proofs.Visits

/-!
# What flattening returns and where it fails

A flat map is what the emissions of a document settle to. Flattening fails at the first visited
position, in pre-order, that is malformed or whose key has no text, and at no other.
-/

namespace DesignTokens

open FlatMap (putAll ofEmissions)

/-- The emissions of a document in pre-order, on paths that continue `base`. -/
def Document.emissions (base : Text) (doc : Document) : List (Text × Scalar) :=
  doc.visits.filterMap (Visit.emission? base)

/-- Adding visits fails at the first fault and otherwise puts every emission. -/
theorem foldlM_add_eq (base : Text) (visits : List Visit) (flat : FlatMap) :
    visits.foldlM (Visit.add base) flat =
      match visits.findSome? (Visit.fault? base) with
      | none => .ok (putAll flat (visits.filterMap (Visit.emission? base)))
      | some fault => .error fault := by
  induction visits generalizing flat with
  | nil => rfl
  | cons v rest ih =>
    obtain ⟨keys, finding⟩ := v
    cases finding with
    | token s => exact ih (flat.put (Visit.path base ⟨keys, .token s⟩) s)
    | malformed cause => rfl
    | unwritten => rfl

theorem flattenUnder_eq (base : Text) (doc : Document) :
    doc.flattenUnder base =
      match doc.visits.findSome? (Visit.fault? base) with
      | none => .ok (ofEmissions (doc.emissions base))
      | some fault => .error fault := by
  rw [Document.flattenUnder, flattenEntries_eq, foldlM_add_eq, FlatMap.putAll_eq_ofEmissions]
  rfl

/-- The flat map of a document comes from putting its emissions one after the other. -/
theorem flat_eq_putAll {base : Text} {doc : Document} {flat : FlatMap}
    (returned : doc.flattenUnder base = .ok flat) : flat = putAll [] (doc.emissions base) := by
  rw [flattenUnder_eq, ← FlatMap.putAll_eq_ofEmissions] at returned
  cases hf : doc.visits.findSome? (Visit.fault? base) with
  | none =>
    rw [hf] at returned
    exact (Except.ok.inj returned).symm
  | some fault =>
    rw [hf] at returned
    cases returned

/-- The paths of a flat map stand in the order in which the document first comes to them. -/
theorem paths_of_flattenUnder {base : Text} {doc : Document} {flat : FlatMap}
    (returned : doc.flattenUnder base = .ok flat) :
    flat.paths = ((doc.emissions base).map Prod.fst).eraseDups := by
  rw [flat_eq_putAll returned, FlatMap.paths_putAll]

/-- The flat map of a document, whatever paths coincide in it, is what its emissions settle to. -/
theorem flat_eq_ofEmissions {base : Text} {doc : Document} {flat : FlatMap}
    (returned : doc.flattenUnder base = .ok flat) : flat = ofEmissions (doc.emissions base) := by
  rw [flat_eq_putAll returned]
  exact FlatMap.putAll_eq_ofEmissions (doc.emissions base)

/-- Two entries on one path, a promoted `DEFAULT`, a wrapper, a metadata key and a font stack. -/
def Document.overlapping : Document :=
  [(.text "a", .map [(.text "b", .int 1), (.text "DEFAULT", .int 2), (.text "$note", .null)]),
    (.text "a-b", .text "x"), (.null, .map [(.text "value", .text "w"), (.text "unit", .null)]),
    (.text "fontFamily", .map [(.text "sans", .list [.text "Open Sans", .text "serif"])])]

def overlappingFlat : FlatMap :=
  [("p-a", .int 2), ("p-a-b", .text "x"), ("p-a-DEFAULT", .int 2), ("p-None", .text "w"),
    ("p-fontFamily-sans", .text "\"Open Sans\", serif")]

theorem flat_eq_ofEmissions_overlapping :
    Document.overlapping.flattenUnder "p" = .ok overlappingFlat ∧
      overlappingFlat = ofEmissions (Document.overlapping.emissions "p") := by
  have returned : Document.overlapping.flattenUnder "p" = .ok overlappingFlat := by rfl
  exact ⟨returned, flat_eq_ofEmissions returned⟩

namespace Visit

def Faulty (v : Visit) : Prop := ∀ s, v.finding ≠ .token s

/-- The failure that a position makes known: its path in front of the cause, unless the path is
empty. -/
def Reports (base : Text) (v : Visit) (f : Failure) : Prop :=
  match v.finding with
  | .token _ => False
  | .malformed cause =>
    f.className = "MalformedTokenError" ∧
      f.text =
        (if v.path base = "" then ("" : Text) else "@ " ++ v.path base ++ ": ") ++ cause.message
  | .unwritten => f.className = "ValueError" ∧ f.text = overlongMessage

theorem fault?_eq_none_iff (base : Text) (v : Visit) : v.fault? base = none ↔ ¬ v.Faulty := by
  obtain ⟨keys, finding⟩ := v
  cases finding with
  | token s => simp [fault?, Faulty]
  | malformed cause => simp [fault?, Faulty]
  | unwritten => simp [fault?, Faulty]

theorem fault?_isSome_iff (base : Text) (v : Visit) :
    (∃ fault, v.fault? base = some fault) ↔ v.Faulty := by
  rw [← Option.ne_none_iff_exists', ne_eq, fault?_eq_none_iff, not_not]

theorem malformed_text (path : Text) (cause : Malformation) :
    (Failure.ofFault (.malformed path cause)).text =
      (if path = "" then ("" : Text) else "@ " ++ path ++ ": ") ++ cause.message := by
  by_cases hp : path = ""
  · subst hp
    simp [Failure.ofFault, Failure.text, ThemeError.malformed, ThemeError.text]
  · have hl : (Location.mk (some path) none).format = "@ " ++ path := by
      simp [Location.format, Option.filter, hp, Text.intercalate_singleton]
    have hk : ((some path).filter fun p : Text => p ≠ "").isSome = true := by simp [Option.filter, hp]
    rw [if_neg hp, ← hl]
    simp only [Failure.ofFault, Failure.text, ThemeError.malformed, ThemeError.text, hk,
      Bool.true_or, if_true, Text.append_assoc]

theorem reports_of_fault? {base : Text} {v : Visit} {fault : TokenFault}
    (hf : v.fault? base = some fault) : v.Reports base (.ofFault fault) := by
  obtain ⟨keys, finding⟩ := v
  cases finding with
  | token s => cases hf
  | malformed cause =>
    obtain rfl := Option.some.inj hf
    exact ⟨rfl, malformed_text _ cause⟩
  | unwritten =>
    obtain rfl := Option.some.inj hf
    exact ⟨rfl, rfl⟩

end Visit

theorem flattenUnder_eq_ok_iff (base : Text) (doc : Document) (flat : FlatMap) :
    doc.flattenUnder base = .ok flat ↔
      doc.visits.findSome? (Visit.fault? base) = none ∧ flat = ofEmissions (doc.emissions base) := by
  rw [flattenUnder_eq]
  cases doc.visits.findSome? (Visit.fault? base) <;> simp [eq_comm]

theorem flattenUnder_eq_error_iff (base : Text) (doc : Document) (fault : TokenFault) :
    doc.flattenUnder base = .error fault ↔
      doc.visits.findSome? (Visit.fault? base) = some fault := by
  rw [flattenUnder_eq]
  cases doc.visits.findSome? (Visit.fault? base) <;> simp

/-- Flattening fails exactly if a visited position is at fault, and with the failure of the first
one. -/
theorem flattening_fails_at_first_fault (base : Text) (doc : Document) :
    ((∃ fault, doc.flattenUnder base = .error fault) ↔ ∃ v ∈ doc.visits, v.Faulty) ∧
    ∀ fault, doc.flattenUnder base = .error fault ↔
      ∃ before v after, doc.visits = before ++ v :: after ∧ (∀ u ∈ before, ¬ u.Faulty) ∧
        v.fault? base = some fault ∧ v.Reports base (.ofFault fault) := by
  constructor
  · simp only [flattenUnder_eq_error_iff, ← Visit.fault?_isSome_iff base]
    constructor
    · rintro ⟨fault, hf⟩
      obtain ⟨v, hv, hvf⟩ := List.exists_of_findSome?_eq_some hf
      exact ⟨v, hv, fault, hvf⟩
    · rintro ⟨v, hv, fault, hvf⟩
      rw [← Option.ne_none_iff_exists']
      intro hn
      rw [List.findSome?_eq_none_iff] at hn
      rw [hn v hv] at hvf
      cases hvf
  · intro fault
    rw [flattenUnder_eq_error_iff, List.findSome?_eq_some_iff]
    constructor
    · rintro ⟨before, v, after, split, hf, clean⟩
      exact ⟨before, v, after, split,
        fun u hu => (Visit.fault?_eq_none_iff base u).mp (clean u hu), hf,
        Visit.reports_of_fault? hf⟩
    · rintro ⟨before, v, after, split, clean, hf, -⟩
      exact ⟨before, v, after, split, hf,
        fun u hu => (Visit.fault?_eq_none_iff base u).mpr (clean u hu)⟩

theorem render?_overlong {n : Int} (long : Nat.pow 10 maxDigits ≤ n.natAbs) :
    (Atom.int n).render? = none := by
  rw [Atom.render?, Scalar.render?, intText?, if_pos long]
  rfl

/-- A whole number of too many digits as the key of a scalar. -/
def Document.overlongKey : Document := [(.int ((Nat.pow 10 maxDigits : Nat) : Int), .text "x")]

/-- No visited position is malformed, and still flattening fails, with an error of another class. -/
theorem overlongKey_fails_without_malformed :
    Document.overlongKey.flatten = .error .overlong ∧
      (Failure.ofFault .overlong).className ≠ "MalformedTokenError" ∧
      ∀ v ∈ Document.overlongKey.visits, ∀ cause, v.finding ≠ .malformed cause := by
  have hk : (Atom.int ((Nat.pow 10 maxDigits : Nat) : Int)).render? = none := by
    have bound : Nat.pow 10 maxDigits ≤ ((Nat.pow 10 maxDigits : Nat) : Int).natAbs :=
      Nat.le_of_eq (Int.natAbs_natCast _).symm
    exact render?_overlong bound
  have hv : Document.overlongKey.visits = [.here .unwritten] := by
    rw [Document.overlongKey, Document.visits, entryVisits, visitsUnder, hk]
    rfl
  refine ⟨?_, by decide, ?_⟩
  · rw [Document.flatten, flattenUnder_eq, hv]
    rfl
  · simp [hv, Visit.here]

end DesignTokens
