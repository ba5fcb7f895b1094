import DesignTokens.Proofs.Flattening

/-!
# Value wrappers are transparent

A scalar in a document is replaced by a mapping that has it as its `value`, next to any other
entries. The mappings around it keep their shape, the walk of flattening comes to the same positions
in the same order, and it finds the same there: the siblings of a scalar `value` are not visited.
-/

namespace DesignTokens

/-- Where the walk of flattening has a value: it is the document itself, it stands under a key, or
the walk does not come to it as a value of its own. -/
inductive Reach
  | document
  | under (key : Text)
  | unvisited

/-- How the walk has the value under a key of a mapping. It does not go into metadata, nor into a
wrapper, and the roles of a family of fonts are no values of their own. -/
def Reach.member (r : Reach) (node : Entries) (key : Atom) : Reach :=
  match key.render? with
  | none => .unvisited
  | some text =>
    if isMetadataKey text then .unvisited
    else
      match r with
      | .document => .under text
      | .under name =>
        match Shape.classify name node with
        | .defaultable _ | .generic => .under text
        | .valueWrapper _ | .fontFamily => .unvisited
      | .unvisited => .unvisited

/-- One scalar of a value is replaced by a mapping that has it as its `value`, at any depth. The
scalar stands under a key other than `value` and `DEFAULT`, in a mapping that is not handled as a
family of fonts. -/
inductive Value.Wraps : Reach → Value → Value → Prop
  | scalar {r : Reach} {before after node : Entries} {key : Atom} {s : Scalar}
      (noValue : key ≠ .text valueKey) (noDefault : key ≠ .text defaultKey)
      (noFonts : ∀ name, r = .under name →
        Shape.classify name (before ++ (key, .scalar s) :: after) ≠ .fontFamily)
      (wrapper : node.get? valueKey = some (.scalar s)) :
      Wraps r (.map (before ++ (key, .scalar s) :: after)) (.map (before ++ (key, .map node) :: after))
  | entry {r : Reach} {before after : Entries} {key : Atom} {v v' : Value}
      (below : Wraps (r.member (before ++ (key, v) :: after) key) v v') :
      Wraps r (.map (before ++ (key, v) :: after)) (.map (before ++ (key, v') :: after))
  | item {r : Reach} {before after : List Value} {v v' : Value} (below : Wraps .unvisited v v') :
      Wraps r (.list (before ++ v :: after)) (.list (before ++ v' :: after))
  | part {r : Reach} {before after : List Value} {v v' : Value} (below : Wraps .unvisited v v') :
      Wraps r (.tuple (before ++ v :: after)) (.tuple (before ++ v' :: after))

/-- One scalar of a document is replaced. -/
def Document.Wraps (doc doc' : Document) : Prop := (Value.map doc).Wraps .document (.map doc')

/-- Two values that look the same from outside, and to the walk if it goes into them. -/
structure Value.Alike (r : Reach) (v v' : Value) : Prop where
  kind : v'.kind = v.kind
  scalar : v'.scalar? = v.scalar?
  role : Finding.ofRole v' = Finding.ofRole v
  visits : ∀ name, r = .under name → v'.visits name = v.visits name

theorem Value.text?_eq_bind (v : Value) :
    v.text? = v.scalar?.bind fun s => match s with | .text t => some t | _ => none := by
  cases v with
  | atom a =>
    cases a with
    | scalar s => cases s <;> rfl
    | null | bool b | date d | moment t | clock c | octets bytes => rfl
  | list items | tuple items | set members | map entries => rfl

/-- The first entry under a key stands in front of, at or behind a place. -/
theorem Entries.get?_append_cons (before after : Entries) (key : Atom) (v : Value) (name : Text) :
    Entries.get? (before ++ (key, v) :: after) name =
      (before.get? name).or (if key = .text name then some v else after.get? name) := by
  rw [get?, get?, List.find?_append, List.find?_cons]
  cases before.find? fun e => e.1 = .text name with
  | some e => rfl
  | none =>
    by_cases hk : key = .text name
    · simp [hk]
    · simp [hk, get?]

section Replaced

variable {before after : Entries} {key : Atom} {v v' : Value}

/-- A key leads to the same value as before, or to the one that has been replaced. -/
theorem get?_replaced (name : Text) :
    Entries.get? (before ++ (key, v') :: after) name =
        Entries.get? (before ++ (key, v) :: after) name ∨
      key = .text name ∧ Entries.get? (before ++ (key, v') :: after) name = some v' ∧
        Entries.get? (before ++ (key, v) :: after) name = some v := by
  rw [Entries.get?_append_cons, Entries.get?_append_cons]
  cases Entries.get? before name with
  | some w => exact Or.inl rfl
  | none =>
    by_cases hk : key = .text name
    · simp [hk]
    · simp [hk]

theorem entryVisits_replaced (same : ∀ text, key.render? = some text →
      isMetadataKey text = false → v'.visits text = v.visits text) :
    entryVisits (before ++ (key, v') :: after) = entryVisits (before ++ (key, v) :: after) := by
  have own : visitsUnder key (fun text => v'.visits text) =
      visitsUnder key fun text => v.visits text := by
    unfold visitsUnder
    cases hk : key.render? with
    | none => rfl
    | some text =>
      cases hm : isMetadataKey text with
      | true => simp only [hm, if_true]
      | false => simp only [same text hk hm]
  simp only [entryVisits_eq_flatMap, List.flatMap_append, List.flatMap_cons, own]

/-- A wrapper is visited once, as the scalar is; what stands next to its `value` is not visited. -/
theorem entryVisits_wrapped {node : Entries} {s : Scalar}
    (wrapper : node.get? valueKey = some (.scalar s)) :
    entryVisits (before ++ (key, .map node) :: after) =
      entryVisits (before ++ (key, .scalar s) :: after) := by
  refine entryVisits_replaced fun text _ _ => ?_
  have hidden : (Value.map node).visits text = [.here (.token s)] := by
    rw [Value.visits, wrapper]
    rfl
  exact hidden

theorem fontVisits_replaced (same : Finding.ofRole v' = Finding.ofRole v) :
    fontVisits (before ++ (key, v') :: after) = fontVisits (before ++ (key, v) :: after) := by
  simp only [fontVisits_eq_flatMap, List.flatMap_append, List.flatMap_cons, same]

/-- The walk comes to the members of the document and to those of a plain group under their keys. -/
theorem Reach.member_eq_under {r : Reach} {node : Entries} {text : Text}
    (written : key.render? = some text) (plain : isMetadataKey text = false)
    (entered : r = .document ∨ ∃ name, r = .under name ∧
      (Shape.classify name node = .generic ∨ ∃ default,
        Shape.classify name node = .defaultable default)) :
    r.member node key = .under text := by
  rw [Reach.member, written]
  rcases entered with rfl | ⟨name, rfl, generic | ⟨default, defaultable⟩⟩
  · simp [plain]
  · simp [plain, generic]
  · simp [plain, defaultable]

/-- Replacing an entry by one that looks the same is not seen in the mapping. -/
theorem Value.Alike.entry {r : Reach}
    (alike : v.Alike (r.member (before ++ (key, v) :: after) key) v') :
    (Value.map (before ++ (key, v) :: after)).Alike r (.map (before ++ (key, v') :: after)) where
  kind := rfl
  scalar := rfl
  role := rfl
  visits name reached := by
    have wrapper : (Entries.get? (before ++ (key, v') :: after) valueKey).bind Value.scalar? =
        (Entries.get? (before ++ (key, v) :: after) valueKey).bind Value.scalar? := by
      rcases get?_replaced valueKey with same | ⟨-, new, old⟩
      · rw [same]
      · rw [new, old]
        exact alike.scalar
    have inside (shape : Shape.classify name (before ++ (key, v) :: after) = .generic ∨
        ∃ default, Shape.classify name (before ++ (key, v) :: after) = .defaultable default) :
        entryVisits (before ++ (key, v') :: after) = entryVisits (before ++ (key, v) :: after) :=
      entryVisits_replaced fun text written plain =>
        alike.visits text (Reach.member_eq_under written plain (Or.inr ⟨name, reached, shape⟩))
    rw [Shape.classify] at inside
    rw [Value.visits, Value.visits, wrapper]
    cases hw : (Entries.get? (before ++ (key, v) :: after) valueKey).bind Value.scalar? with
    | some s => rfl
    | none =>
      rw [hw] at inside
      have default : Visit.ofDefault v' = .ofDefault v := by
        rw [Visit.ofDefault, Visit.ofDefault, alike.scalar]
      have kept := @get?_replaced before after key v v' defaultKey
      rcases kept with same | ⟨-, new, old⟩
      · rw [same]
        cases hd : Entries.get? (before ++ (key, v) :: after) defaultKey with
        | some w => simp only [inside (by simp [hd])]
        | none =>
          by_cases fonts : name = fontFamilyKey
          · simp only [fonts, if_true, fontVisits_replaced alike.role]
          · simp only [fonts, if_false, inside (by simp [hd, fonts])]
      · rw [old] at inside
        simp only [new, old, default, inside (by simp)]

/-- A wrapper in the place of a scalar is not seen in the mapping, unless a shape is told by that
scalar or it is the role of a family of fonts. -/
theorem Value.Alike.wrapper {r : Reach} {node : Entries} {s : Scalar}
    (noValue : key ≠ .text valueKey) (noDefault : key ≠ .text defaultKey)
    (noFonts : ∀ name, r = .under name →
      Shape.classify name (before ++ (key, .scalar s) :: after) ≠ .fontFamily)
    (wrapper : node.get? valueKey = some (.scalar s)) :
    (Value.map (before ++ (key, .scalar s) :: after)).Alike r
      (.map (before ++ (key, .map node) :: after)) where
  kind := rfl
  scalar := rfl
  role := rfl
  visits name reached := by
    have kept {name : Text} (other : key ≠ .text name) :
        Entries.get? (before ++ (key, .map node) :: after) name =
          Entries.get? (before ++ (key, .scalar s) :: after) name :=
      (get?_replaced name).resolve_right fun replaced => other replaced.1
    have shape := noFonts name reached
    rw [Shape.classify] at shape
    rw [Value.visits, Value.visits, kept noValue, kept noDefault, entryVisits_wrapped wrapper]
    cases hw : (Entries.get? (before ++ (key, .scalar s) :: after) valueKey).bind Value.scalar? with
    | some t => rfl
    | none =>
      cases hd : Entries.get? (before ++ (key, .scalar s) :: after) defaultKey with
      | some default => rfl
      | none =>
        by_cases fonts : name = fontFamilyKey
        · simp [hw, hd, fonts] at shape
        · rw [if_neg fonts, if_neg fonts]

end Replaced

/-- A list makes the same font stack, or fails at the same entry, with an item in it that looks the
same. -/
theorem ofRole_replaced {before after : List Value} {v v' : Value} (alike : v.Alike .unvisited v') :
    Finding.ofRole (.list (before ++ v' :: after)) = Finding.ofRole (.list (before ++ v :: after)) := by
  have text : v'.text? = v.text? := by
    rw [Value.text?_eq_bind, Value.text?_eq_bind, alike.scalar]
  rw [Finding.ofRole, Finding.ofRole, List.find?_append, List.find?_append, List.find?_cons,
    List.find?_cons, List.filterMap_append, List.filterMap_append, List.filterMap_cons,
    List.filterMap_cons, text]
  cases before.find? fun w => w.text?.isNone with
  | some w => rfl
  | none =>
    cases v.text?.isNone with
    | true => exact congrArg (Finding.malformed ∘ .fontEntry) alike.kind
    | false => rfl

theorem Value.Wraps.alike {r : Reach} {v v' : Value} (wraps : v.Wraps r v') : v.Alike r v' := by
  induction wraps with
  | scalar noValue noDefault noFonts wrapper => exact .wrapper noValue noDefault noFonts wrapper
  | entry _ ih => exact ih.entry
  | item _ ih => exact ⟨rfl, rfl, ofRole_replaced ih, fun _ _ => rfl⟩
  | part _ ih => exact ⟨rfl, rfl, ofRole_replaced ih, fun _ _ => rfl⟩

/-- The top level of a document is not classified, so only the walk through its entries matters. -/
theorem Document.Wraps.visits {doc doc' : Document} (wraps : doc.Wraps doc') :
    doc'.visits = doc.visits := by
  cases wraps with
  | scalar _ _ _ wrapper => exact entryVisits_wrapped wrapper
  | entry below =>
    exact entryVisits_replaced fun text written plain =>
      below.alike.visits text (Reach.member_eq_under written plain (Or.inl rfl))

/-- A document flattens to the same map, or fails in the same way, with a wrapper in the place of one
of its scalars, whatever else is in the wrapper. -/
theorem wrappers_are_transparent {doc doc' : Document} (wraps : doc.Wraps doc') (base : Text) :
    doc'.flattenUnder base = doc.flattenUnder base := by
  rw [flattenUnder_eq, flattenUnder_eq, Document.emissions, Document.emissions, wraps.visits]

/-- A group that has a default, so that it is no family of fonts. -/
def Document.sized : Document :=
  [(.text "fontFamily", .map [(.text "DEFAULT", .text "serif"), (.text "size", .int 4)])]

/-- The size stands in a wrapper whose other entries could not be flattened. -/
def Document.sizedInWrapper : Document :=
  [(.text "fontFamily", .map [(.text "DEFAULT", .text "serif"), (.text "size", .map
    [(.text "DEFAULT", .null), (.text "value", .int 4), (.text "unit", .list [.bool true])])])]

theorem wrappers_are_transparent_sized :
    Document.sized.Wraps Document.sizedInWrapper ∧
      Document.sizedInWrapper.flattenUnder "p" = Document.sized.flattenUnder "p" ∧
      Document.sized.flattenUnder "p" = .ok [("p-fontFamily", .text "serif"),
        ("p-fontFamily-DEFAULT", .text "serif"), ("p-fontFamily-size", .int 4)] := by
  have size : (Value.map [(.text "DEFAULT", .text "serif"), (.text "size", .int 4)]).Wraps
      (.under "fontFamily") (.map [(.text "DEFAULT", .text "serif"), (.text "size", .map
        [(.text "DEFAULT", .null), (.text "value", .int 4), (.text "unit", .list [.bool true])])]) := by
    refine @Value.Wraps.scalar _ [(.text "DEFAULT", .text "serif")] [] _ (.text "size") (.int 4)
      (by decide) (by decide) ?_ rfl
    intro text named shape
    cases named
    cases shape
  have wraps : Document.sized.Wraps Document.sizedInWrapper :=
    @Value.Wraps.entry .document [] [] (.text "fontFamily") _ _ size
  exact ⟨wraps, wrappers_are_transparent wraps "p", rfl⟩

end DesignTokens
