import DesignTokens.Proofs.Groups

/-!
# Edits of one group

Two documents differ only in what stands under one key at the top. Their flat maps agree on every path
that is not in the group of that key: what the group emits stays on its own paths, so it neither
overwrites another token nor moves one. The base style sheets agree in the same way, section by
section.
-/

namespace DesignTokens

/-- Two documents have the same keys at the top, in the same order, and the same values under all but
one of them. -/
def Document.EditedAt (group : Text) (doc doc' : Document) : Prop :=
  List.Forall₂ (fun e e' => e'.1 = e.1 ∧ (e.1.render? ≠ some group → e'.2 = e.2)) doc doc'

/-- The entries of a flat map whose paths are not in a group. -/
def FlatMap.outside (group : Text) (flat : FlatMap) : FlatMap :=
  flat.filter fun e => !inGroup group e.1

/-- The declarations of custom properties whose names are not in the group of that of a token. -/
def Declarations.outside (group : Text) (ds : Declarations) : Declarations :=
  ds.filter fun d => !inGroup (variableName group) (variableName d.1)

section

variable {group : Text} {doc doc' : Document} {flat flat' : FlatMap}

/-- The emissions of an entry at the top of a document. -/
def topEmissions (e : Atom × Value) : List (Text × Scalar) :=
  (visitsUnder e.1 fun text => e.2.visits text).filterMap (Visit.emission? "")

theorem emissions_eq_flatMap (doc : Document) : doc.emissions "" = doc.flatMap topEmissions := by
  rw [Document.emissions, Document.visits, entryVisits_eq_flatMap, List.filterMap_flatMap]
  rfl

/-- The entry of a group emits nothing outside of it. -/
theorem outside_topEmissions (named : group ≠ "") {e : Atom × Value}
    (written : e.1.render? = some group) :
    (topEmissions e).filter (fun e => !inGroup group e.1) = [] := by
  rw [List.filter_eq_nil_iff]
  rintro ⟨path, s⟩ emitted
  obtain ⟨keys, visited, rfl⟩ := (mem_filterMap_emission?_iff _ "" path s).mp emitted
  obtain ⟨step, rest, rfl, spelt, -⟩ := (token_mem_visitsUnder_iff e.1 _ keys s).mp visited
  obtain rfl := Option.some.inj (written.symm.trans spelt)
  rw [inGroup_path named rest]
  exact Bool.false_ne_true

theorem Document.EditedAt.outside_emissions (named : group ≠ "") (edited : doc.EditedAt group doc') :
    (doc.emissions "").filter (fun e => !inGroup group e.1) =
      (doc'.emissions "").filter fun e => !inGroup group e.1 := by
  rw [emissions_eq_flatMap, emissions_eq_flatMap, List.filter_flatMap, List.filter_flatMap]
  induction edited with
  | nil => rfl
  | @cons e e' rest rest' first _ ih =>
    obtain ⟨key, value⟩ := first
    have own : (topEmissions e).filter (fun e => !inGroup group e.1) =
        (topEmissions e').filter fun e => !inGroup group e.1 := by
      by_cases written : e.1.render? = some group
      · rw [outside_topEmissions named written, outside_topEmissions named (key ▸ written)]
      · have same : e' = e := Prod.ext key (value written)
        rw [same]
    rw [List.flatMap_cons, List.flatMap_cons, own, ih]

theorem Document.EditedAt.outside_flat (named : group ≠ "") (edited : doc.EditedAt group doc')
    (flattened : doc.flatten = .ok flat) (flattened' : doc'.flatten = .ok flat') :
    flat.outside group = flat'.outside group := by
  obtain ⟨-, rfl⟩ := (flattenUnder_eq_ok_iff "" doc flat).mp flattened
  obtain ⟨-, rfl⟩ := (flattenUnder_eq_ok_iff "" doc' flat').mp flattened'
  rw [FlatMap.outside, FlatMap.outside, FlatMap.filter_ofEmissions (fun path => !inGroup group path),
    FlatMap.filter_ofEmissions (fun path => !inGroup group path), edited.outside_emissions named]

theorem Declarations.outside_eq (group : Text) (ds : Declarations) :
    ds.outside group = ds.filter fun d => !inGroup group d.1 := by
  simp only [outside, inGroup_variableName]

theorem Declarations.outside_inCategory (group : Text) (ds : Declarations) (c : Category) :
    (ds.inCategory c).outside group = (ds.outside group).inCategory c :=
  List.filter_comm ..

theorem outside_declarations (same : flat.outside group = flat'.outside group)
    {ds ds' : Declarations} (as : flat.WrittenAs ds) (as' : flat'.WrittenAs ds') :
    ds.outside group = ds'.outside group := by
  have kept := as.filter fun path => !inGroup group path
  have kept' := as'.filter fun path => !inGroup group path
  rw [Declarations.outside_eq, Declarations.outside_eq]
  rw [FlatMap.outside, FlatMap.outside] at same
  exact (same ▸ kept).unique kept'

end

/-- Where two documents differ only in the value under one key at the top, their flat maps have the
same entries in the same order on all paths that are not in the group of that key, and each section of
the base style sheet has the same declarations in the same order under all names that are not. -/
theorem edits_are_local {group : Text} (named : group ≠ "") {doc doc' : Document}
    (edited : doc.EditedAt group doc') {flat flat' : FlatMap} (flattened : doc.flatten = .ok flat)
    (flattened' : doc'.flatten = .ok flat') :
    flat.outside group = flat'.outside group ∧
      ∀ text text', Sheet.generateBase doc = .ok text → Sheet.generateBase doc' = .ok text' →
        ∃ ds ds', flat.WrittenAs ds ∧ flat'.WrittenAs ds' ∧ text = (Sheet.base ds).render ∧
          text' = (Sheet.base ds').render ∧
          ∀ c, (ds.inCategory c).outside group = (ds'.inCategory c).outside group := by
  have same := edited.outside_flat named flattened flattened'
  constructor
  · exact same
  · intro text text' generated generated'
    obtain ⟨ds, as, rfl⟩ := (Sheet.generateBase_eq_ok_iff flattened text).mp generated
    obtain ⟨ds', as', rfl⟩ := (Sheet.generateBase_eq_ok_iff flattened' text').mp generated'
    refine ⟨ds, ds', as, as', rfl, rfl, ?_⟩
    intro c
    rw [Declarations.outside_inCategory, Declarations.outside_inCategory,
      outside_declarations same as as']

/-- The deck with another group in the place of its slides. -/
def Document.recolored : Document :=
  [(.text "slide-shadow", .text "1px"), (.text "border", .text "2px"),
    (.text "slide", .map [(.text "value", .text "#fff"), (.text "font", .null)])]

def recoloredFlat : FlatMap :=
  [("slide-shadow", .text "1px"), ("border", .text "2px"), ("slide", .text "#fff")]

theorem edits_are_local_recolored :
    ("slide" : Text) ≠ "" ∧ Document.deck.EditedAt "slide" .recolored ∧
      Document.deck.flatten = .ok deckFlat ∧ Document.recolored.flatten = .ok recoloredFlat ∧
      deckFlat.outside "slide" = recoloredFlat.outside "slide" ∧
      ∃ text text' ds ds', Sheet.generateBase .deck = .ok text ∧
        Sheet.generateBase .recolored = .ok text' ∧ text = (Sheet.base ds).render ∧
        text' = (Sheet.base ds').render ∧
        ∀ c, (ds.inCategory c).outside "slide" = (ds'.inCategory c).outside "slide" := by
  have named : ("slide" : Text) ≠ "" := by decide
  have edited : Document.deck.EditedAt "slide" .recolored := by
    simp [Document.EditedAt, Document.deck, Document.recolored, Atom.render?, Scalar.render?]
  have flattened : Document.deck.flatten = .ok deckFlat := rfl
  have flattened' : Document.recolored.flatten = .ok recoloredFlat := rfl
  obtain ⟨same, sheets⟩ := edits_are_local named edited flattened flattened'
  have generated := Sheet.generateBase_of_declarations flattened rfl
  have generated' := Sheet.generateBase_of_declarations flattened' rfl
  obtain ⟨ds, ds', -, -, text, text', sections⟩ := sheets _ _ generated generated'
  exact ⟨named, edited, flattened, flattened', same, _, _, ds, ds', generated, generated', text, text',
    sections⟩

end DesignTokens
