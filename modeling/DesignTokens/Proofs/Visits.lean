import DesignTokens.Flatten

/-!
# The positions that flattening visits

A document is walked in pre-order. Entries under metadata keys are left out, and so is everything
below a mapping with a scalar `value`. What is found at a position depends on the value that stands
there alone; flattening adds the findings to the flat map one after the other and stops at the first
that is no scalar.
-/

namespace DesignTokens

/-- What is found at a position: a scalar to emit, a malformed value, or a key that has no text. -/
inductive Finding
  | token (s : Scalar)
  | malformed (cause : Malformation)
  | unwritten

/-- A position, by the keys that lead to it, with what is found there. -/
structure Visit where
  keys : List Text
  finding : Finding

namespace Visit

def here (f : Finding) : Visit := ⟨[], f⟩

def under (key : Text) (v : Visit) : Visit := ⟨key :: v.keys, v.finding⟩

/-- The dash-joined path of a position in a document whose paths continue `base`. -/
def path (base : Text) (v : Visit) : Text := v.keys.foldl joinPath base

def emission? (base : Text) (v : Visit) : Option (Text × Scalar) :=
  match v.finding with
  | .token s => some (v.path base, s)
  | .malformed _ | .unwritten => none

def fault? (base : Text) (v : Visit) : Option TokenFault :=
  match v.finding with
  | .token _ => none
  | .malformed cause => some (.malformed (v.path base) cause)
  | .unwritten => some .overlong

end Visit

theorem Value.eq_of_scalar?_eq_some {v : Value} {s : Scalar} (scalar : v.scalar? = some s) :
    v = .scalar s := by
  unfold Value.scalar? at scalar
  split at scalar
  · rw [Option.some.inj scalar]
  · cases scalar

def Value.text? : Value → Option Text
  | .atom (.scalar (.text s)) => some s
  | _ => none

/-- A role of a font family is a scalar or a list of names, which make a font stack. -/
def Finding.ofRole : Value → Finding
  | .atom (.scalar s) => .token s
  | .list items | .tuple items =>
    match items.find? fun v => v.text?.isNone with
    | some v => .malformed (.fontEntry v.kind)
    | none => .token (.text (.intercalate ", " ((items.filterMap Value.text?).map fontName)))
  | v => .malformed (.fontRole v.kind)

/-- The `DEFAULT` of a group is emitted at the path of the group. -/
def Visit.ofDefault (default : Value) : Visit :=
  match default.scalar? with
  | some s => .here (.token s)
  | none => ⟨[defaultKey], .malformed .defaultNotScalar⟩

/-- The visits of an entry, from those of its value under the text of its key. -/
def visitsUnder (key : Atom) (visits : Text → List Visit) : List Visit :=
  match key.render? with
  | none => [.here .unwritten]
  | some text => if isMetadataKey text then [] else (visits text).map (.under text)

def fontVisits : List (Atom × Value) → List Visit
  | [] => []
  | (key, fonts) :: rest => visitsUnder key (fun _ => [.here (.ofRole fonts)]) ++ fontVisits rest

mutual

/-- The visits of the value under a key, the first of the cases that applies. -/
def Value.visits (key : Text) : Value → List Visit
  | .atom (.scalar s) => [.here (.token s)]
  | .map node =>
    match (Entries.get? node valueKey).bind Value.scalar? with
    | some s => [.here (.token s)]
    | none =>
      match Entries.get? node defaultKey with
      | some default => .ofDefault default :: entryVisits node
      | none => if key = fontFamilyKey then fontVisits node else entryVisits node
  | v => [.here (.malformed (.unsupported v.kind))]

/-- The visits of entries in document order. -/
def entryVisits : List (Atom × Value) → List Visit
  | [] => []
  | (key, v) :: rest => visitsUnder key (fun text => v.visits text) ++ entryVisits rest

end

def Document.visits (doc : Document) : List Visit := entryVisits doc

theorem entryVisits_eq_flatMap (es : Entries) :
    entryVisits es = es.flatMap fun e => visitsUnder e.1 fun text => e.2.visits text := by
  induction es with
  | nil => rfl
  | cons e rest ih => rw [entryVisits, List.flatMap_cons, ih]

theorem fontVisits_eq_flatMap (es : Entries) :
    fontVisits es = es.flatMap fun e => visitsUnder e.1 fun _ => [.here (.ofRole e.2)] := by
  induction es with
  | nil => rfl
  | cons e rest ih => rw [fontVisits, List.flatMap_cons, ih]

/-- An entry has a visit of its own if its key cannot be written, and otherwise those of its value,
unless it is metadata. -/
theorem mem_visitsUnder_iff (key : Atom) (visits : Text → List Visit) (u : Visit) :
    u ∈ visitsUnder key visits ↔
      key.render? = none ∧ u = .here .unwritten ∨
      ∃ step, key.render? = some step ∧ isMetadataKey step = false ∧
        ∃ below ∈ visits step, u = below.under step := by
  unfold visitsUnder
  cases key.render? with
  | none => simp
  | some text =>
    cases hm : isMetadataKey text with
    | true => simp [hm]
    | false =>
      have turned (below : Visit) : below.under text = u ↔ u = below.under text := eq_comm
      simp [hm, turned]

theorem token_mem_visitsUnder_iff (key : Atom) (visits : Text → List Visit) (keys : List Text)
    (s : Scalar) :
    ⟨keys, .token s⟩ ∈ visitsUnder key visits ↔
      ∃ step rest, keys = step :: rest ∧ key.render? = some step ∧ isMetadataKey step = false ∧
        ⟨rest, .token s⟩ ∈ visits step := by
  rw [mem_visitsUnder_iff]
  constructor
  · rintro (⟨-, unwritten⟩ | ⟨step, written, plain, ⟨rest, finding⟩, here, same⟩)
    · cases unwritten
    · cases same
      exact ⟨step, rest, rfl, written, plain, here⟩
  · rintro ⟨step, rest, rfl, written, plain, here⟩
    exact Or.inr ⟨step, written, plain, _, here, rfl⟩

theorem mem_entryVisits_iff (es : Entries) (keys : List Text) (s : Scalar) :
    ⟨keys, .token s⟩ ∈ entryVisits es ↔
      ∃ step rest, keys = step :: rest ∧ isMetadataKey step = false ∧
        ∃ e ∈ es, e.1.render? = some step ∧ ⟨rest, .token s⟩ ∈ e.2.visits step := by
  simp only [entryVisits_eq_flatMap, List.mem_flatMap, token_mem_visitsUnder_iff]
  constructor
  · rintro ⟨e, he, step, rest, rfl, written, plain, here⟩
    exact ⟨step, rest, rfl, plain, e, he, written, here⟩
  · rintro ⟨step, rest, rfl, plain, e, he, written, here⟩
    exact ⟨e, he, step, rest, rfl, written, plain, here⟩

/-- A visit of a document is that of a key that cannot be written, or leads through a key. -/
theorem Document.keys_of_mem_visits {doc : Document} {v : Visit} (visited : v ∈ doc.visits) :
    v = .here .unwritten ∨ ∃ key rest, v.keys = key :: rest ∧ ∃ e ∈ doc, e.1.render? = some key := by
  rw [Document.visits, entryVisits_eq_flatMap, List.mem_flatMap] at visited
  obtain ⟨e, he, visited⟩ := visited
  rcases (mem_visitsUnder_iff e.1 _ v).mp visited with ⟨-, rfl⟩ | ⟨key, written, -, below, -, rfl⟩
  · exact Or.inl rfl
  · exact Or.inr ⟨key, below.keys, rfl, e, he, written⟩

/-- Some visits emit the tokens among them, each on the path of its keys. -/
theorem mem_filterMap_emission?_iff (visits : List Visit) (base path : Text) (s : Scalar) :
    (path, s) ∈ visits.filterMap (Visit.emission? base) ↔
      ∃ keys, ⟨keys, .token s⟩ ∈ visits ∧ path = keys.foldl joinPath base := by
  rw [List.mem_filterMap]
  constructor
  · rintro ⟨⟨keys, finding⟩, visited, emits⟩
    cases finding with
    | token t =>
      cases emits
      exact ⟨keys, visited, rfl⟩
    | malformed cause => cases emits
    | unwritten => cases emits
  · rintro ⟨keys, visited, rfl⟩
    exact ⟨_, visited, rfl⟩

def Visit.add (base : Text) (flat : FlatMap) (v : Visit) : Except TokenFault FlatMap :=
  match v.finding with
  | .token s => .ok (flat.put (v.path base) s)
  | .malformed cause => .error (.malformed (v.path base) cause)
  | .unwritten => .error .overlong

theorem foldlM_add_under (base key : Text) (visits : List Visit) (flat : FlatMap) :
    (visits.map (Visit.under key)).foldlM (Visit.add base) flat =
      visits.foldlM (Visit.add (joinPath base key)) flat := by
  rw [List.foldlM_map]
  rfl

theorem foldlM_visitsUnder (base : Text) (key : Atom) (visits : Text → List Visit)
    (flat : FlatMap) :
    (visitsUnder key visits).foldlM (Visit.add base) flat =
      match key.render? with
      | none => .error .overlong
      | some text =>
        if isMetadataKey text then .ok flat
        else (visits text).foldlM (Visit.add (joinPath base text)) flat := by
  unfold visitsUnder
  cases key.render? with
  | none => rfl
  | some text =>
    by_cases hm : isMetadataKey text
    · simp only [hm, if_true]
      rfl
    · simp only [hm]
      exact foldlM_add_under base text (visits text) flat

@[simp] theorem Value.text?_text (s : Text) : (Value.text s).text? = some s := rfl

theorem fontNames_eq (items : List Value) :
    fontNames items =
      match items.find? fun v => v.text?.isNone with
      | some v => .error v.kind
      | none => .ok ((items.filterMap Value.text?).map fontName) := by
  fun_induction fontNames items with
  | case1 => rfl
  | case2 font rest ih =>
    have hf : (Value.text font).text?.isNone = false := rfl
    rw [ih, List.find?_cons, hf]
    cases rest.find? fun v => v.text?.isNone with
    | none => rfl
    | some v => rfl
  | case3 v rest hv =>
    have hn : v.text?.isNone = true := by
      unfold Value.text?
      split
      · exact absurd rfl (hv _)
      · rfl
    rw [List.find?_cons, hn]

theorem add_fontStack (path : Text) (items : List Value) (flat : FlatMap) :
    (Visit.here (.ofRole (.list items))).add path flat =
      match fontStack items with
      | .ok stack => .ok (flat.put path (.text stack))
      | .error cause => .error (.malformed path cause) := by
  rw [fontStack, fontNames_eq, Finding.ofRole]
  cases items.find? fun v => v.text?.isNone with
  | none => rfl
  | some v => rfl

theorem add_ofRole (path : Text) (fonts : Value) (flat : FlatMap) :
    (Visit.here (.ofRole fonts)).add path flat =
      match fontRole fonts with
      | .ok s => .ok (flat.put path s)
      | .error cause => .error (.malformed path cause) := by
  have stack (items : List Value) :
      (Visit.here (.ofRole (.list items))).add path flat =
        match (fontStack items).map Scalar.text with
        | .ok s => .ok (flat.put path s)
        | .error cause => .error (.malformed path cause) := by
    rw [add_fontStack]
    cases fontStack items <;> rfl
  cases fonts with
  | atom a => cases a <;> rfl
  | list items => exact stack items
  | tuple items => exact stack items
  | set members => rfl
  | map entries => rfl

theorem flattenFonts_eq (path : Text) (es : Entries) (flat : FlatMap) :
    flattenFonts path es flat = (fontVisits es).foldlM (Visit.add path) flat := by
  induction es generalizing flat with
  | nil => rfl
  | cons e rest ih =>
    obtain ⟨k, fonts⟩ := e
    rw [flattenFonts, fontVisits, List.foldlM_append, foldlM_visitsUnder]
    cases k.render? with
    | none => rfl
    | some role =>
      by_cases hm : isMetadataKey role
      · simp only [hm, if_true]
        exact ih flat
      · simp only [hm, List.foldlM_cons, add_ofRole]
        cases fontRole fonts with
        | error cause => rfl
        | ok s => exact ih _

mutual

theorem flattenValue_eq (key path : Text) : ∀ (v : Value) (flat : FlatMap),
    flattenValue key path v flat = (v.visits key).foldlM (Visit.add path) flat
  | .atom a, flat => by
    cases a <;> rfl
  | .list items, flat => rfl
  | .tuple items, flat => rfl
  | .set members, flat => rfl
  | .map node, flat => by
    rw [flattenValue, Value.visits, Shape.classify]
    cases hw : (Entries.get? node valueKey).bind Value.scalar? with
    | some s => rfl
    | none =>
      cases hd : Entries.get? node defaultKey with
      | none =>
        by_cases hf : key = fontFamilyKey
        · simp only [hf, if_true]
          exact flattenFonts_eq path node flat
        · simp only [hf, if_false]
          exact flattenEntries_eq path node flat
      | some default =>
        cases hs : default.scalar? with
        | none =>
          simp only [Visit.ofDefault, hs]
          rfl
        | some s =>
          simp only [Visit.ofDefault, hs]
          exact flattenEntries_eq path node _

theorem flattenEntries_eq (base : Text) : ∀ (es : List (Atom × Value)) (flat : FlatMap),
    flattenEntries base es flat = (entryVisits es).foldlM (Visit.add base) flat
  | [], flat => rfl
  | (k, v) :: rest, flat => by
    rw [flattenEntries, entryVisits, List.foldlM_append, foldlM_visitsUnder]
    cases k.render? with
    | none => rfl
    | some key =>
      by_cases hm : isMetadataKey key
      · simp only [hm, if_true]
        exact flattenEntries_eq base rest flat
      · simp only [hm, flattenValue_eq key (joinPath base key) v flat]
        cases (v.visits key).foldlM (Visit.add (joinPath base key)) flat with
        | error fault => rfl
        | ok flat => exact flattenEntries_eq base rest flat

end

end DesignTokens
