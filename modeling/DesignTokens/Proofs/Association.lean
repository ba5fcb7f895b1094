import Mathlib.Data.List.Basic
import Mathlib.Data.List.Dedup
import Mathlib.Data.List.Nodup

/-!
# Association lists

An association list answers with the first entry under a key. One whose keys are distinct is its
keys in order with the answer to each.
-/

namespace DesignTokens

universe u v
variable {α : Type u} {β : Type v} [BEq α] [LawfulBEq α] [DecidableEq α]

theorem lookup_cons_ite (key : α) (b : β) (rest : List (α × β)) (q : α) :
    ((key, b) :: rest).lookup q = if q = key then some b else rest.lookup q := by
  by_cases hq : q = key
  · simp [hq]
  · have hb : (q == key) = false := by simpa using hq
    rw [if_neg hq, List.lookup_cons, hb]

theorem lookup_of_mem {entries : List (α × β)} (nodup : (entries.map Prod.fst).Nodup) {key : α}
    {b : β} (h : (key, b) ∈ entries) : entries.lookup key = some b := by
  induction entries with
  | nil => cases h
  | cons e rest ih =>
    obtain ⟨first, b'⟩ := e
    rw [List.map_cons, List.nodup_cons] at nodup
    rw [lookup_cons_ite]
    rcases List.mem_cons.mp h with heq | hrest
    · obtain ⟨rfl, rfl⟩ := Prod.mk.inj heq
      exact if_pos rfl
    · have hmem : key ∈ rest.map Prod.fst := List.mem_map_of_mem hrest
      have hne : key ≠ first := fun heq => nodup.1 (heq ▸ hmem)
      rw [if_neg hne, ih nodup.2 hrest]

theorem lookup_eq_some_iff_mem {entries : List (α × β)} (nodup : (entries.map Prod.fst).Nodup)
    (key : α) (b : β) : entries.lookup key = some b ↔ (key, b) ∈ entries := by
  refine ⟨fun found => ?_, lookup_of_mem nodup⟩
  obtain ⟨before, after, rfl, -⟩ := List.lookup_eq_some_iff.mp found
  exact List.mem_append_right before List.mem_cons_self

theorem lookup_perm {entries entries' : List (α × β)} (nodup : (entries.map Prod.fst).Nodup)
    (perm : entries.Perm entries') (key : α) : entries.lookup key = entries'.lookup key := by
  have nodup' : (entries'.map Prod.fst).Nodup := (perm.map Prod.fst).nodup_iff.mp nodup
  refine Option.ext fun b => ?_
  rw [lookup_eq_some_iff_mem nodup, lookup_eq_some_iff_mem nodup', perm.mem_iff]

theorem filterMap_lookup_keys {entries : List (α × β)} (nodup : (entries.map Prod.fst).Nodup) :
    ((entries.map Prod.fst).filterMap fun key => (entries.lookup key).map fun b => (key, b)) =
      entries := by
  induction entries with
  | nil => rfl
  | cons e rest ih =>
    obtain ⟨key, b⟩ := e
    rw [List.map_cons, List.nodup_cons] at nodup
    have hhead : (((key, b) :: rest).lookup key).map (fun b => (key, b)) = some (key, b) := by
      rw [lookup_cons_ite, if_pos rfl]
      rfl
    have htail : ∀ q ∈ rest.map Prod.fst,
        (((key, b) :: rest).lookup q).map (fun b => (q, b)) =
          (rest.lookup q).map fun b => (q, b) := by
      intro q hq
      have hne : q ≠ key := fun h => nodup.1 (h ▸ hq)
      rw [lookup_cons_ite, if_neg hne]
    rw [List.map_cons, List.filterMap_cons, hhead, List.filterMap_congr htail]
    exact congrArg ((key, b) :: ·) (ih nodup.2)

omit [DecidableEq α] in
theorem nodup_eraseDups (keys : List α) : keys.eraseDups.Nodup := by
  induction hn : keys.length using Nat.strongRecOn generalizing keys with
  | ind n ih =>
    cases keys with
    | nil => exact List.nodup_nil
    | cons key rest =>
      rw [List.eraseDups_cons, List.nodup_cons]
      have hle := List.length_filter_le (fun q => !q == key) rest
      rw [List.length_cons] at hn
      exact ⟨by simp [List.mem_eraseDups], ih _ (by omega) _ rfl⟩

theorem eraseDups_perm_dedup (keys : List α) : keys.eraseDups.Perm keys.dedup :=
  (List.perm_ext_iff_of_nodup (nodup_eraseDups keys) (List.nodup_dedup keys)).mpr fun key => by
    rw [List.mem_eraseDups, List.mem_dedup]

omit [DecidableEq α] in
theorem eraseDups_eq_self {keys : List α} (nodup : keys.Nodup) : keys.eraseDups = keys := by
  induction keys with
  | nil => rfl
  | cons key rest ih =>
    rw [List.nodup_cons] at nodup
    have kept : rest.filter (fun q => !q == key) = rest := by
      refine List.filter_eq_self.mpr fun q hq => ?_
      have hne : q ≠ key := fun h => nodup.1 (h ▸ hq)
      simpa using hne
    rw [List.eraseDups_cons, kept, ih nodup.2]

theorem length_eraseDups_eq_iff (keys : List α) :
    keys.eraseDups.length = keys.length ↔ keys.Nodup := by
  constructor
  · intro same
    rw [(eraseDups_perm_dedup keys).length_eq] at same
    exact List.dedup_eq_self.mp ((List.dedup_sublist keys).eq_of_length same)
  · intro nodup
    rw [eraseDups_eq_self nodup]

end DesignTokens
