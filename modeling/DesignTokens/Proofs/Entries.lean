import DesignTokens.Flatten
import Mathlib.Data.List.Nodup

/-!
# Mappings and their keys

A text is the same key as itself and as nothing else, so putting an entry adds at most its own key
and leaves the other text keys alone.
-/

namespace DesignTokens

namespace Atom

/-- A text is one key with itself alone. -/
theorem sameKey_text (a : Atom) (s : Text) : a.sameKey (.text s) = decide (a = .text s) := by
  cases a with
  | null | bool b | date d | moment t | clock c | octets bytes => simp [sameKey, number?]
  | scalar x =>
    cases x with
    | text t => exact beq_eq_decide (Atom.text t) (.text s)
    | int n => simp [sameKey, number?]
    | float x => cases hx : x.toInt? <;> simp [sameKey, number?, hx]

theorem text_sameKey (s : Text) (a : Atom) : (Atom.text s).sameKey a = decide (a = .text s) := by
  cases a with
  | null | bool b | date d | moment t | clock c | octets bytes => simp [sameKey, number?]
  | scalar x =>
    cases x with
    | text t => exact (beq_eq_decide (Atom.text s) (.text t)).trans (decide_eq_decide.mpr eq_comm)
    | int n => simp [sameKey, number?]
    | float x => cases hx : x.toInt? <;> simp [sameKey, number?, hx]

end Atom

namespace Entries

def keys (es : Entries) : List Atom := es.map Prod.fst

theorem contains_iff (es : Entries) (key : Text) :
    es.contains key = true ↔ .text key ∈ es.keys := by
  simp [contains, get?, keys, List.find?_isSome]

theorem mem_of_get? {es : Entries} {key : Text} {v : Value} (found : es.get? key = some v) :
    (.text key, v) ∈ es := by
  obtain ⟨e, he, rfl⟩ := Option.map_eq_some_iff.mp found
  have named : e.1 = .text key := by simpa using List.find?_some he
  exact named ▸ List.mem_of_find?_eq_some he

theorem contains_of_get? {es : Entries} {key : Text} {v : Value} (found : es.get? key = some v) :
    es.contains key = true := by
  rw [contains, found, Option.isSome_some]

/-- Putting an entry keeps the keys that are there, and adds its own if that is not one of them. -/
theorem keys_put (es : Entries) (key : Atom) (v : Value) :
    (es.put key v).keys = if es.any (fun e => e.1.sameKey key) then es.keys else es.keys ++ [key] := by
  rw [put]
  split
  · rw [keys, List.map_map]
    refine List.map_congr_left fun e _ => ?_
    dsimp only [Function.comp]
    split <;> rfl
  · exact List.map_append

/-- An entry whose key is new stands at the end. -/
theorem put_of_notMem {es : Entries} {key : Text} (fresh : .text key ∉ es.keys) (v : Value) :
    es.put (.text key) v = es ++ [(.text key, v)] := by
  rw [put, if_neg]
  intro known
  obtain ⟨e, he, same⟩ := List.any_eq_true.mp known
  rw [Atom.sameKey_text, decide_eq_true_eq] at same
  exact fresh (same ▸ List.mem_map_of_mem he)

theorem mem_keys_put (es : Entries) (key : Atom) (v : Value) (s : Text) :
    .text s ∈ (es.put key v).keys ↔ .text s ∈ es.keys ∨ key = .text s := by
  rw [keys_put]
  split
  · rename_i known
    refine ⟨Or.inl, fun h => h.elim id ?_⟩
    rintro rfl
    obtain ⟨e, he, same⟩ := List.any_eq_true.mp known
    rw [Atom.sameKey_text, decide_eq_true_eq] at same
    exact same ▸ List.mem_map_of_mem he
  · rw [List.mem_append, List.mem_singleton, eq_comm]

theorem mem_keys_putAll (es more : Entries) (s : Text) :
    .text s ∈ (es.putAll more).keys ↔ .text s ∈ es.keys ∨ .text s ∈ more.keys := by
  induction more generalizing es with
  | nil => simp [putAll, keys]
  | cons e more ih =>
    have step : es.putAll (e :: more) = (es.put e.1 e.2).putAll more := rfl
    have keys_cons : .text s ∈ keys (e :: more) ↔ e.1 = .text s ∨ .text s ∈ keys more := by
      rw [keys, List.map_cons, List.mem_cons, eq_comm]
      rfl
    rw [step, ih, mem_keys_put, or_assoc, keys_cons]

end Entries

end DesignTokens
