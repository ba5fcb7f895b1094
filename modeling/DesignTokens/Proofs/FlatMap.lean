import DesignTokens.Flatten
import DesignTokens.Proofs.Association
import Mathlib.Data.List.Induction

/-!
# Flat maps as settled emissions

Putting emissions into a flat map one after the other settles to a map that can be read off the
whole list: every path stands where it was emitted first and carries what it was emitted with last.
-/

namespace DesignTokens.FlatMap

/-- What emissions settle to. -/
def ofEmissions (es : List (Text × Scalar)) : FlatMap :=
  (es.map Prod.fst).eraseDups.filterMap fun path =>
    (es.reverse.lookup path).map fun s => (path, s)

def putAll (flat : FlatMap) (es : List (Text × Scalar)) : FlatMap :=
  es.foldl (fun flat e => flat.put e.1 e.2) flat

theorem putAll_concat (flat : FlatMap) (es : List (Text × Scalar)) (e : Text × Scalar) :
    putAll flat (es ++ [e]) = (putAll flat es).put e.1 e.2 := by
  rw [putAll, List.foldl_append]
  rfl

def paths (flat : FlatMap) : List Text := flat.map Prod.fst

@[simp] theorem paths_cons (p : Text) (s : Scalar) (rest : FlatMap) :
    paths ((p, s) :: rest) = p :: rest.paths := rfl

theorem paths_put (flat : FlatMap) (path : Text) (s : Scalar) :
    (flat.put path s).paths = if path ∈ flat.paths then flat.paths else flat.paths ++ [path] := by
  induction flat with
  | nil => rfl
  | cons e rest ih =>
    obtain ⟨p, old⟩ := e
    by_cases hp : p = path
    · simp [put, hp]
    · have hne : path ≠ p := fun h => hp h.symm
      rw [put, if_neg hp, paths_cons, paths_cons, ih]
      by_cases hm : path ∈ paths rest
      · simp [hm]
      · simp [hm, hne]

theorem paths_putAll (es : List (Text × Scalar)) :
    (putAll [] es).paths = (es.map Prod.fst).eraseDups := by
  induction es using List.reverseRecOn with
  | nil => rfl
  | append_singleton es e ih =>
    rw [putAll_concat, paths_put, ih, List.map_append, List.eraseDups_append]
    by_cases hm : e.1 ∈ es.map Prod.fst
    · simp [hm, List.removeAll]
    · simp [hm, List.removeAll, List.eraseDups_cons]

theorem get?_cons (p : Text) (s : Scalar) (rest : FlatMap) (q : Text) :
    get? ((p, s) :: rest) q = if q = p then some s else rest.get? q := lookup_cons_ite p s rest q

theorem get?_put (flat : FlatMap) (path : Text) (s : Scalar) (q : Text) :
    (flat.put path s).get? q = if q = path then some s else flat.get? q := by
  induction flat with
  | nil => exact get?_cons path s [] q
  | cons e rest ih =>
    obtain ⟨p, old⟩ := e
    by_cases hp : p = path
    · subst hp
      rw [put, if_pos rfl, get?_cons, get?_cons]
      by_cases hq : q = p <;> simp [hq]
    · rw [put, if_neg hp, get?_cons, get?_cons, ih]
      by_cases hq : q = p
      · have hne : q ≠ path := fun h => hp (hq.symm.trans h)
        rw [if_pos hq, if_neg hne, if_pos hq]
      · rw [if_neg hq, if_neg hq]

theorem get?_putAll (es : List (Text × Scalar)) (q : Text) :
    (putAll [] es).get? q = es.reverse.lookup q := by
  induction es using List.reverseRecOn with
  | nil => rfl
  | append_singleton es e ih =>
    rw [putAll_concat, get?_put, ih, List.reverse_append]
    exact (get?_cons e.1 e.2 es.reverse q).symm

theorem nodup_paths_putAll (es : List (Text × Scalar)) : (putAll [] es).paths.Nodup := by
  rw [paths_putAll]
  exact nodup_eraseDups _

/-- Later emissions overwrite in place: the order of first emissions, the scalars of last ones. -/
theorem putAll_eq_ofEmissions (es : List (Text × Scalar)) : putAll [] es = ofEmissions es := by
  have settled := filterMap_lookup_keys (nodup_paths_putAll es)
  rw [← settled]
  change (putAll [] es).paths.filterMap (fun path => ((putAll [] es).get? path).map _) = _
  rw [paths_putAll, ofEmissions]
  simp only [get?_putAll]

theorem map_put {rename : Text → Text} (injective : rename.Injective) (flat : FlatMap)
    (path : Text) (s : Scalar) :
    (flat.put path s).map (Prod.map rename id) =
      put (flat.map (Prod.map rename id)) (rename path) s := by
  induction flat with
  | nil => rfl
  | cons e rest ih =>
    obtain ⟨p, old⟩ := e
    by_cases hp : p = path
    · simp [put, hp]
    · have hne : rename p ≠ rename path := fun same => hp (injective same)
      rw [put, if_neg hp, List.map_cons, ih, List.map_cons, Prod.map_apply, put, if_neg hne]

/-- Emissions whose paths are renamed, and stay apart, settle to the map with its paths renamed. -/
theorem ofEmissions_map {rename : Text → Text} (injective : rename.Injective)
    (es : List (Text × Scalar)) :
    ofEmissions (es.map (Prod.map rename id)) = (ofEmissions es).map (Prod.map rename id) := by
  rw [← putAll_eq_ofEmissions, ← putAll_eq_ofEmissions]
  induction es using List.reverseRecOn with
  | nil => rfl
  | append_singleton es e ih =>
    rw [List.map_append, List.map_singleton, putAll_concat, putAll_concat, map_put injective, ih]
    rfl

theorem filter_put (keep : Text → Bool) (flat : FlatMap) (path : Text) (s : Scalar) :
    (flat.put path s).filter (fun e => keep e.1) =
      if keep path then put (flat.filter fun e => keep e.1) path s
      else flat.filter fun e => keep e.1 := by
  induction flat with
  | nil => cases hk : keep path <;> simp [put, hk]
  | cons e rest ih =>
    obtain ⟨p, old⟩ := e
    by_cases hp : p = path
    · subst hp
      cases hk : keep p <;> simp [put, hk]
    · cases hk : keep p <;> cases hq : keep path <;> simp [put, hp, hk, hq, ih]

/-- What emissions settle to on some paths depends on the emissions on these paths only. -/
theorem filter_ofEmissions (keep : Text → Bool) (es : List (Text × Scalar)) :
    (ofEmissions es).filter (fun e => keep e.1) = ofEmissions (es.filter fun e => keep e.1) := by
  rw [← putAll_eq_ofEmissions, ← putAll_eq_ofEmissions]
  induction es using List.reverseRecOn with
  | nil => rfl
  | append_singleton es e ih =>
    rw [putAll_concat, filter_put, ih, List.filter_append]
    cases hk : keep e.1 with
    | true => simp [hk, putAll_concat]
    | false => simp [hk]

end DesignTokens.FlatMap
