import DesignTokens.Proofs.ReadPath
import Mathlib.Logic.Relation

/-!
# Generators leave each other alone

Compiling makes one artifact of each entry of a registry, in its order. The artifact of an entry is
what its own generator makes of the document, whatever else is in the registry: other entries can be
added, broken, taken away and put in another order, and a generator that fails stops no other.
-/

namespace DesignTokens

namespace Registry

/-- A change of a registry that leaves the entry of a name alone: another name gets a generator, be
it new or not, another entry is taken away, or the entries are put in another order. -/
inductive Alters (name : String) : Registry → Registry → Prop
  | put (r : Registry) {other : String} (elsewhere : other ≠ name) (g : Generator) :
    Alters name r (r.put other g)
  | remove (r : Registry) {other : String} (elsewhere : other ≠ name) :
    Alters name r (r.filter fun e => e.1 ≠ other)
  | reorder {r r' : Registry} (perm : r.Perm r') : Alters name r r'

theorem lookup_put (r : Registry) (name : String) (g : Generator) (q : String) :
    (r.put name g).lookup q = if q = name then some g else r.lookup q := by
  induction r with
  | nil => exact lookup_cons_ite name g [] q
  | cons e rest ih =>
    obtain ⟨n, old⟩ := e
    by_cases hn : n = name
    · subst hn
      rw [put, if_pos rfl, lookup_cons_ite, lookup_cons_ite]
      by_cases hq : q = n <;> simp [hq]
    · rw [put, if_neg hn, lookup_cons_ite, lookup_cons_ite, ih]
      by_cases hq : q = n
      · have hne : q ≠ name := fun h => hn (hq.symm.trans h)
        rw [if_pos hq, if_neg hne, if_pos hq]
      · rw [if_neg hq, if_neg hq]

theorem names_put (r : Registry) (name : String) (g : Generator) :
    (r.put name g).map Prod.fst =
      if name ∈ r.map Prod.fst then r.map Prod.fst else r.map Prod.fst ++ [name] := by
  induction r with
  | nil => rfl
  | cons e rest ih =>
    obtain ⟨n, old⟩ := e
    by_cases hn : n = name
    · simp [put, hn]
    · have hne : name ≠ n := fun h => hn h.symm
      rw [put, if_neg hn, List.map_cons, List.map_cons, ih]
      by_cases hm : name ∈ rest.map Prod.fst
      · rw [if_pos hm, if_pos (List.mem_cons_of_mem _ hm)]
      · rw [if_neg hm, if_neg (by simp [hm, hne])]
        rfl

theorem lookup_remove (r : Registry) {name other : String} (elsewhere : other ≠ name) :
    (r.filter fun e => e.1 ≠ other).lookup name = r.lookup name := by
  induction r with
  | nil => rfl
  | cons e rest ih =>
    obtain ⟨n, g⟩ := e
    rw [List.filter_cons, lookup_cons_ite]
    by_cases hn : n = other
    · have hne : name ≠ n := fun h => elsewhere (hn.symm.trans h.symm)
      rw [if_neg (by simp [hn]), if_neg hne, ih]
    · rw [if_pos (by simp [hn]), lookup_cons_ite, ih]

variable {name : String} {r r' : Registry}

theorem Alters.nodup (alters : Alters name r r') (distinct : (r.map Prod.fst).Nodup) :
    (r'.map Prod.fst).Nodup := by
  cases alters with
  | @put other elsewhere g =>
    rw [names_put]
    by_cases known : other ∈ r.map Prod.fst
    · rw [if_pos known]
      exact distinct
    · rw [if_neg known, List.nodup_append]
      refine ⟨distinct, List.nodup_singleton _, ?_⟩
      intro n hn m hm same
      rw [same, List.mem_singleton.mp hm] at hn
      exact known hn
  | remove elsewhere => exact (List.filter_sublist.map Prod.fst).nodup distinct
  | reorder perm => exact (perm.map Prod.fst).nodup_iff.mp distinct

theorem Alters.lookup (alters : Alters name r r') (distinct : (r.map Prod.fst).Nodup) :
    r'.lookup name = r.lookup name := by
  cases alters with
  | put elsewhere g => rw [lookup_put, if_neg elsewhere.symm]
  | remove elsewhere => exact lookup_remove r elsewhere
  | reorder perm => exact (lookup_perm distinct perm name).symm

/-- Any number of changes elsewhere leaves the entry of a name alone. -/
theorem lookup_of_alters (distinct : (r.map Prod.fst).Nodup)
    (alters : Relation.ReflTransGen (Alters name) r r') :
    (r'.map Prod.fst).Nodup ∧ r'.lookup name = r.lookup name := by
  induction alters with
  | refl => exact ⟨distinct, rfl⟩
  | tail _ step ih => exact ⟨step.nodup ih.1, (step.lookup ih.1).trans ih.2⟩

end Registry

namespace Artifact

/-- The text of what went wrong. -/
def error? (a : Artifact) : Option Text := a.failure.map Failure.text

/-- The class of what went wrong. -/
def errorType? (a : Artifact) : Option String := a.failure.map Failure.className

/-- An artifact tells the output of a generator: the text, or what was raised. -/
structure Tells (a : Artifact) (output : Except Failure Text) : Prop where
  text : ∀ text, output = .ok text →
    a.content = some text ∧ a.error? = none ∧ a.errorType? = none
  failure : ∀ f, output = .error f →
    a.content = none ∧ a.error? = some f.text ∧ a.errorType? = some f.className

theorem tells_ofOutput (name : String) (output : Except Failure Text) :
    (ofOutput name output).Tells output := by
  constructor
  · rintro text rfl
    exact ⟨rfl, rfl, rfl⟩
  · rintro f rfl
    exact ⟨rfl, rfl, rfl⟩

theorem success_ofOutput (name : String) (output : Except Failure Text) :
    (ofOutput name output).success = output.isOk := by
  cases output <;> rfl

theorem content_ofOutput (name : String) (output : Except Failure Text) :
    (ofOutput name output).content = output.toOption := by
  cases output <;> rfl

theorem success_iff_error? (a : Artifact) : a.success ↔ a.error? = none ∧ a.errorType? = none := by
  cases hf : a.failure <;> simp [success, error?, errorType?, hf]

end Artifact

theorem Compilation.success_iff_failed (c : Compilation) : c.success ↔ c.failed = [] := by
  simp [success, failed, List.filter_eq_nil_iff]

theorem getElem?_compile (registry : Registry) (doc : Document) (i : Nat) :
    (compile registry doc)[i]? = registry[i]?.map fun e => .ofOutput e.1 (e.2 doc) :=
  List.getElem?_map

theorem failed_compile (registry : Registry) (doc : Document) :
    (compile registry doc).failed = compile (registry.filter fun e => !(e.2 doc).isOk) doc := by
  rw [Compilation.failed, compile, compile, List.filter_map]
  congr 1
  refine List.filter_congr fun e _ => ?_
  rw [Function.comp_apply, Artifact.success_ofOutput]

/-- What holds of the artifacts of a registry: there is one for each entry, in order, and it tells
the output of its own generator. It is the same wherever an entry of that name with that output
stands in any registry, a pass goes on behind an entry as if it had begun there, and no changes of
other entries matter. -/
structure Isolated (registry : Registry) (doc : Document) : Prop where
  each : List.Forall₂ (fun e a => a.name = e.1 ∧ a.filename = Artifact.filenameOf e.1 ∧
    a.Tells (e.2 doc)) registry (compile registry doc)
  own : ∀ (other : Registry) (i j : Nat) (e e' : String × Generator), registry[i]? = some e →
    other[j]? = some e' → e.1 = e'.1 → e.2 doc = e'.2 doc →
    (compile registry doc)[i]? = (compile other doc)[j]?
  unstopped : ∀ before after, registry = before ++ after →
    compile registry doc = compile before doc ++ compile after doc
  altered : ∀ name other, Relation.ReflTransGen (Registry.Alters name) registry other →
    (compile other doc).get? name = (compile registry doc).get? name
  told : ∀ a ∈ compile registry doc, (a.success ↔ a.content.isSome) ∧
    (a.content.isSome ↔ a.error? = none ∧ a.errorType? = none)
  failed : (compile registry doc).failed = compile (registry.filter fun e => !(e.2 doc).isOk) doc
  success : (compile registry doc).success ↔ (compile registry doc).failed = []

theorem told_of_mem_compile {registry : Registry} {doc : Document} {a : Artifact}
    (ha : a ∈ compile registry doc) : a.success ↔ a.content.isSome := by
  obtain ⟨e, -, rfl⟩ := List.mem_map.mp ha
  rw [Artifact.success_ofOutput, Artifact.content_ofOutput]
  cases e.2 doc <;> simp [Except.isOk, Except.toBool, Except.toOption]

/-- Every registry of distinct names makes artifacts that do not depend on each other. -/
theorem generators_are_isolated {registry : Registry}
    (distinct : (registry.map Prod.fst).Nodup) (doc : Document) : Isolated registry doc where
  each := by
    rw [compile, List.forall₂_map_right_iff, List.forall₂_same]
    intro e _
    have name := Artifact.ofOutput_name e.1 (e.2 doc)
    exact ⟨name, congrArg Artifact.filenameOf name, Artifact.tells_ofOutput e.1 (e.2 doc)⟩
  own := by
    intro other i j e e' he he' name output
    rw [getElem?_compile, getElem?_compile, he, he', Option.map_some, Option.map_some, name, output]
  unstopped := by
    rintro before after rfl
    exact compile_append before after doc
  altered := by
    intro name other alters
    rw [get?_compile, get?_compile, (Registry.lookup_of_alters distinct alters).2]
  told := by
    intro a ha
    have told := told_of_mem_compile ha
    exact ⟨told, told.symm.trans a.success_iff_error?⟩
  failed := failed_compile registry doc
  success := Compilation.success_iff_failed _

/-- Two generators, of which the first one fails. -/
def Registry.mixed : Registry :=
  [("broken", fun _ => .error (.outside "KeyError" "'gone'")), ("ok", fun _ => .ok "text")]

/-- The broken generator is replaced, another broken one is added, and the order is reversed. -/
def Registry.mended : Registry :=
  ((mixed.put "broken" fun _ => .ok "").put "new" fun _ => .error .overlong).reverse

theorem Registry.alters_mended : Relation.ReflTransGen (Alters "ok") mixed mended := by
  have replaced : Alters "ok" mixed (mixed.put "broken" fun _ => .ok "") :=
    .put mixed (by decide) _
  have added : Alters "ok" (mixed.put "broken" fun _ => .ok "")
      ((mixed.put "broken" fun _ => .ok "").put "new" fun _ => .error .overlong) :=
    .put _ (by decide) _
  have reversed : Alters "ok" _ mended := .reorder (List.reverse_perm _).symm
  exact ((Relation.ReflTransGen.single replaced).tail added).tail reversed

theorem generators_are_isolated_mixed :
    (Registry.mixed.map Prod.fst).Nodup ∧
      (compile .mixed []).map Artifact.error? = [some ("'gone'" : Text), none] ∧
      (compile .mixed []).get? "ok" = some ⟨"ok", some "text", none⟩ ∧
      (compile .mended []).map Artifact.name = ["new", "ok", "broken"] ∧
      (compile .mended []).get? "ok" = (compile .mixed []).get? "ok" := by
  have distinct : (Registry.mixed.map Prod.fst).Nodup := by decide
  have isolated := generators_are_isolated distinct []
  refine ⟨distinct, ?_, rfl, rfl, isolated.altered "ok" .mended Registry.alters_mended⟩
  decide

end DesignTokens
