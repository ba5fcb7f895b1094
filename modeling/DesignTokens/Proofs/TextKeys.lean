import DesignTokens.Proofs.JsonFiles

/-!
# Keys stand once

In a document that is loaded no two entries of a mapping have one key, whatever the notation of the
document was. In particular a text is the key of one entry at most, so the walk along text keys comes
to the only entry there is.
-/

namespace DesignTokens

/-- A text is the key of one entry at most. -/
def Entries.OncePerText (es : Entries) : Prop :=
  es.Pairwise fun e f => ∀ s, e.1 = .text s → f.1 ≠ .text s

/-- Every mapping that text keys lead to has a text once. -/
inductive Value.Keyed : Value → Prop
  | map {es : Entries} (once : es.OncePerText) (below : ∀ e ∈ es, Keyed e.2) : Keyed (.map es)
  | leaf {v : Value} (none : v.entries? = none) : Keyed v

def Document.Keyed (doc : Document) : Prop := (Value.map doc).Keyed

/-- No entry has the key of an earlier one. -/
def Entries.Distinct (es : Entries) : Prop := es.Pairwise fun e f => e.1.sameKey f.1 = false

/-- The keys of every mapping that text keys lead to are distinct. -/
inductive Value.Distinct : Value → Prop
  | map {es : Entries} (distinct : es.Distinct) (below : ∀ e ∈ es, Distinct e.2) : Distinct (.map es)
  | leaf {v : Value} (none : v.entries? = none) : Distinct v

def Document.Distinct (doc : Document) : Prop := (Value.map doc).Distinct

namespace Value

theorem Keyed.once {es : Entries} (keyed : (Value.map es).Keyed) : es.OncePerText := by
  cases keyed with
  | map once _ => exact once
  | leaf none => cases none

theorem Keyed.entry {es : Entries} (keyed : (Value.map es).Keyed) : ∀ e ∈ es, e.2.Keyed := by
  cases keyed with
  | map _ below => exact below
  | leaf none => cases none

@[simp] theorem keyed_atom (a : Atom) : (Value.atom a).Keyed := .leaf rfl

@[simp] theorem keyed_list (items : List Value) : (Value.list items).Keyed := .leaf rfl

@[simp] theorem keyed_nil : (Value.map []).Keyed := .map List.Pairwise.nil (by simp)

@[simp] theorem keyed_cons_iff (e : Atom × Value) (es : Entries) :
    (Value.map (e :: es)).Keyed ↔
      (∀ f ∈ es, ∀ s, e.1 = .text s → f.1 ≠ .text s) ∧ e.2.Keyed ∧ (Value.map es).Keyed := by
  constructor
  · intro keyed
    obtain ⟨first, once⟩ := List.pairwise_cons.mp keyed.once
    obtain ⟨value, below⟩ := List.forall_mem_cons.mp keyed.entry
    exact ⟨first, value, .map once below⟩
  · rintro ⟨first, value, keyed⟩
    exact .map (List.pairwise_cons.mpr ⟨first, keyed.once⟩)
      (List.forall_mem_cons.mpr ⟨value, keyed.entry⟩)

end Value

@[simp] theorem Value.distinct_atom (a : Atom) : (Value.atom a).Distinct := .leaf rfl

@[simp] theorem Value.distinct_list (items : List Value) : (Value.list items).Distinct := .leaf rfl

@[simp] theorem Value.distinct_map_iff (es : Entries) :
    (Value.map es).Distinct ↔ es.Distinct ∧ ∀ e ∈ es, e.2.Distinct := by
  constructor
  · intro distinct
    cases distinct with
    | map distinct below => exact ⟨distinct, below⟩
    | leaf none => cases none
  · rintro ⟨distinct, below⟩
    exact .map distinct below

theorem Entries.Distinct.oncePerText {es : Entries} (distinct : es.Distinct) : es.OncePerText := by
  refine distinct.imp fun {e f} apart s he hf => ?_
  rw [hf, Atom.sameKey_text, decide_eq_false_iff_not] at apart
  exact apart he

theorem Value.Distinct.keyed {v : Value} (distinct : v.Distinct) : v.Keyed := by
  induction distinct with
  | map distinct _ ih => exact .map distinct.oncePerText ih
  | leaf none => exact .leaf none

/-- The entry under a text key is the only one. -/
theorem Entries.get?_eq_some_iff {es : Entries} (once : es.OncePerText) (s : Text) (v : Value) :
    es.get? s = some v ↔ (.text s, v) ∈ es := by
  constructor
  · exact mem_of_get?
  · intro here
    induction es with
    | nil => cases here
    | cons e rest ih =>
      obtain ⟨first, once⟩ := List.pairwise_cons.mp once
      rcases List.mem_cons.mp here with rfl | here
      · simp [get?]
      · have other : e.1 ≠ .text s := fun h => first _ here s h rfl
        simpa [get?, other] using ih once here

theorem Value.OfJson.distinct {v : Value} (ofJson : v.OfJson) : v.Distinct := by
  induction ofJson with
  | null | bool b | scalar s | list all ih => exact .leaf rfl
  | @map es texts distinct all ih =>
    refine .map ?_ ih
    have apart := List.pairwise_map.mp (List.nodup_iff_pairwise_ne.mp distinct)
    refine apart.imp_of_mem fun {e f} _ hf different => ?_
    obtain ⟨s, text⟩ := texts f hf
    rw [text, Atom.sameKey_text, decide_eq_false_iff_not, ← text]
    exact different

namespace Yaml

open Json (exists_of_bind_ok)

/-- What a mapping is made into has distinct keys. -/
def Part.Distinct : Part → Prop
  | .map entries => entries.Pairwise fun e f => e.1.same f.1 = false
  | _ => True

theorem Part.distinct_empty {tag : Tag} {p : Part} (empty : Part.empty? tag = some p) :
    p.Distinct := by
  cases tag <;> cases empty <;> first | trivial | exact List.Pairwise.nil

theorem distinct_putEntry {entries : List (Key × Ref)} (distinct : (Part.map entries).Distinct)
    (k : Key) (v : Ref) : (Part.map (putEntry entries k v)).Distinct := by
  unfold putEntry
  split
  · -- A value is replaced and the keys stay.
    have key (e : Key × Ref) : (if e.1.same k then (e.1, v) else e).1 = e.1 := by
      split <;> rfl
    refine List.pairwise_map.mpr (List.Pairwise.imp ?_ distinct)
    intro e f apart
    rwa [key, key]
  · rename_i fresh
    refine List.pairwise_append.mpr ⟨distinct, List.pairwise_singleton _ _, ?_⟩
    intro e he f hf
    rw [List.mem_singleton.mp hf]
    exact Bool.eq_false_iff.mpr fun same => fresh (List.any_eq_true.mpr ⟨e, he, same⟩)

/-- What each step of a fold keeps is kept by the whole of it. -/
theorem foldlM_keeps {α β ε : Type} {f : β → α → Except ε β} {P : β → Prop}
    (step : ∀ {s a s'}, P s → f s a = .ok s' → P s') {as : List α} {s s' : β} (start : P s)
    (done : as.foldlM f s = .ok s') : P s' := by
  induction as generalizing s with
  | nil =>
    cases done
    exact start
  | cons a rest ih =>
    rw [List.foldlM_cons] at done
    obtain ⟨next, hn, done⟩ := exists_of_bind_ok done
    exact ih (step start hn) done

namespace Building

/-- Every part that has been made has distinct keys. -/
def Distinct (b : Building) : Prop := ∀ n p, b.part? n = some p → p.Distinct

variable {b b' : Building}

theorem distinct_start (g : Graph) : (start g).Distinct := by
  intro n p made
  simp [start, part?, Array.getElem?_replicate] at made
  split at made <;> simp at made

theorem Distinct.setPart (distinct : b.Distinct) {p : Part} (part : p.Distinct) (n : Ref) :
    (b.setPart n p).Distinct := by
  intro m q made
  rw [part?, Building.setPart, Array.getElem?_setIfInBounds] at made
  split at made
  · split at made
    · cases made
      exact part
    · cases made
  · exact distinct m q made

theorem distinct_scalarPart {g : Graph} {n : Ref} {p : Part} (made : scalarPart g n = .ok p) :
    p.Distinct := by
  unfold scalarPart at made
  dsimp only at made
  split at made
  · cases made
  · split at made
    · cases made
    · obtain ⟨a, -, made⟩ := exists_of_bind_ok made
      cases made
      trivial

theorem Distinct.make (distinct : b.Distinct) {n : Ref} {p : Part} (made : b.make n = .ok (p, b')) :
    b'.Distinct := by
  unfold Building.make at made
  split at made
  · cases made
    exact distinct
  · split at made
    · rename_i q empty
      cases made
      exact distinct.setPart (Part.distinct_empty empty) n
    · obtain ⟨q, hq, made⟩ := exists_of_bind_ok made
      cases made
      exact distinct.setPart (distinct_scalarPart hq) n

theorem Distinct.makeAll (distinct : b.Distinct) {ns : List Ref} (made : b.makeAll ns = .ok b') :
    b'.Distinct := by
  refine foldlM_keeps (P := Distinct) ?_ distinct made
  intro s n s' distinct made
  obtain ⟨r, hr, made⟩ := exists_of_bind_ok made
  cases made
  exact distinct.make hr

theorem Distinct.makePairs (distinct : b.Distinct) {ns : List Ref} {ps : List (Ref × Ref)}
    (made : b.makePairs ns = .ok (ps, b')) : b'.Distinct := by
  refine foldlM_keeps (P := fun s => s.2.Distinct) ?_ distinct made
  rintro ⟨done, s⟩ n ⟨done', s'⟩ distinct made
  dsimp only at made
  split at made
  · obtain ⟨next, hn, made⟩ := exists_of_bind_ok made
    cases made
    exact distinct.makeAll hn
  · cases made

theorem Distinct.makeEntries (distinct : b.Distinct) {n : Ref} {es : List (Key × Ref)}
    (made : b.makeEntries n = .ok (es, b')) : b'.Distinct ∧ (Part.map es).Distinct := by
  obtain ⟨g, -, made⟩ := exists_of_bind_ok made
  have start : Distinct { b with graph := g } ∧ (Part.map []).Distinct := ⟨distinct, List.Pairwise.nil⟩
  refine foldlM_keeps (P := fun s => s.2.Distinct ∧ (Part.map s.1).Distinct) ?_ start made
  rintro ⟨done, s⟩ ⟨k, v⟩ ⟨done', s'⟩ ⟨distinct, entries⟩ made
  obtain ⟨⟨p, s₁⟩, hk, made⟩ := exists_of_bind_ok made
  cases p with
  | atom key =>
    obtain ⟨r, hv, made⟩ := exists_of_bind_ok made
    cases made
    exact ⟨(distinct.make hk).make hv, distinct_putEntry entries key v⟩
  | list items | pairs items | set members | map entries => cases made

theorem Distinct.fill (distinct : b.Distinct) {n : Ref} (filled : b.fill n = .ok b') : b'.Distinct := by
  have pairs {items : List Ref} {r : List (Ref × Ref) × Building}
      (made : b.makePairs items = .ok r) : (r.2.setPart n (.pairs r.1)).Distinct :=
    (distinct.makePairs made).setPart (p := .pairs r.1) trivial n
  unfold Building.fill at filled
  split at filled
  · obtain ⟨next, hn, filled⟩ := exists_of_bind_ok filled
    cases filled
    exact (distinct.makeAll hn).setPart (p := .list _) trivial n
  · obtain ⟨r, hr, filled⟩ := exists_of_bind_ok filled
    cases filled
    exact pairs hr
  · obtain ⟨r, hr, filled⟩ := exists_of_bind_ok filled
    cases filled
    exact pairs hr
  · obtain ⟨r, hr, filled⟩ := exists_of_bind_ok filled
    cases filled
    exact (distinct.makeEntries hr).1.setPart (p := .set _) trivial n
  · obtain ⟨r, hr, filled⟩ := exists_of_bind_ok filled
    cases filled
    exact (distinct.makeEntries hr).1.setPart (distinct.makeEntries hr).2 n
  · cases filled

theorem Distinct.fillAll {fuel : Nat} (distinct : b.Distinct) (filled : Building.fillAll fuel b = .ok b') :
    b'.Distinct := by
  induction fuel generalizing b with
  | zero =>
    cases filled
    exact distinct
  | succ fuel ih =>
    unfold Building.fillAll at filled
    split at filled
    · cases filled
      exact distinct
    · obtain ⟨next, hn, filled⟩ := exists_of_bind_ok filled
      have round := foldlM_keeps (P := Distinct) (fun distinct step => Distinct.fill distinct step)
        (s := { b with unfilled := [] }) distinct hn
      exact ih round filled

/-- The values that parts stand for are mappings with distinct keys. -/
theorem Distinct.value (distinct : b.Distinct) (fuel : Nat) (n : Ref) : (b.value fuel n).Distinct := by
  induction fuel generalizing n with
  | zero => exact .leaf rfl
  | succ fuel ih =>
    unfold Building.value
    split
    · exact .leaf rfl
    · exact .leaf rfl
    · exact .leaf rfl
    · exact .leaf rfl
    · exact .leaf rfl
    · rename_i entries made
      have apart : entries.Pairwise fun e f => e.1.atom.sameKey f.1.atom = false :=
        List.Pairwise.imp (fun same => (Bool.or_eq_false_iff.mp same).1) (distinct n _ made)
      refine .map (List.pairwise_map.mpr apart) ?_
      intro e he
      obtain ⟨e', -, rfl⟩ := List.mem_map.mp he
      exact ih e'.2

end Building

theorem distinct_of_parse {cs : List Char} {v : Value} (read : parse cs = .ok v) : v.Distinct := by
  obtain ⟨found, -, read⟩ := exists_of_bind_ok read
  cases found with
  | none =>
    cases read
    exact .leaf rfl
  | some found =>
    obtain ⟨r, hr, read⟩ := exists_of_bind_ok read
    obtain ⟨b, hb, read⟩ := exists_of_bind_ok read
    cases read
    exact (((Building.distinct_start found.2).make hr).fillAll hb).value _ _

end Yaml

theorem distinct_of_parseAs {file : Path} {cs : List Char} {v : Value}
    (read : parseAs file cs = .ok v) : v.Distinct := by
  unfold parseAs at read
  split at read
  · split at read
    · rename_i parsed
      cases read
      exact Yaml.distinct_of_parse parsed
    · cases read
    · cases read
  · split at read
    · rename_i parsed
      cases read
      exact (Json.ofJson_of_parse parsed).distinct
    · cases read
    · cases read

/-- A document that is loaded has distinct keys in each of its mappings, so that no text is the key of
two entries. -/
theorem FileTree.distinct_load {t : FileTree} {file : Path} {doc : Document}
    (loaded : t.load file = .ok doc) : doc.Distinct ∧ doc.Keyed := by
  obtain ⟨octets, -, parsed⟩ := (load_eq_ok_iff t file doc).mp loaded
  unfold parseDocument at parsed
  split at parsed
  · cases parsed
  · split at parsed
    · cases parsed
    · rename_i read
      cases parsed
      have distinct := distinct_of_parseAs read
      exact ⟨distinct, distinct.keyed⟩
    · cases parsed

end DesignTokens
