import DesignTokens.Lookup
import DesignTokens.Proofs.Metadata
import DesignTokens.Proofs.Positions
import DesignTokens.Proofs.TextKeys

/-!
# The token at a path

Flattening finds a token at a position by itself: a scalar, or a mapping that collapses to one. What
the flat map has on the path of the position is that token, unless a position whose keys are joined
to the same path comes later.
-/

namespace DesignTokens

/-- The characters of numbers and calendar values. -/
def isNumeral (c : Char) : Bool := c.isDigit || ". +-:einfa".toList.contains c

/-- Written like a number or a calendar value. -/
def IsNumeral (text : String) : Prop := ∀ c ∈ text.toList, isNumeral c

namespace IsNumeral

@[simp] theorem append (s t : String) : IsNumeral (s ++ t) ↔ IsNumeral s ∧ IsNumeral t := by
  simp only [IsNumeral, String.toList_append, List.forall_mem_append]

theorem intText (n : Int) : IsNumeral (intText n) := by
  intro c h
  rcases mem_intText h with digit | rfl
  · simp [isNumeral, digit]
  · decide

theorem write (x : Binary64) : IsNumeral (plain.write x) := by
  have marks : ∀ d ∈ ['.', '+', '-', 'e'], isNumeral d := by simp [isNumeral]
  have unknown : ∀ d ∈ ['n', 'a', 'n'], isNumeral d := by simp [isNumeral]
  have infinite : ∀ d ∈ ['i', 'n', 'f'], isNumeral d := by simp [isNumeral]
  intro c h
  rcases Notation.mem_write h with digit | mark | word | word
  · simp [isNumeral, digit]
  · exact marks c mark
  · exact unknown c word
  · exact infinite c word

@[simp] theorem padded (width n : Nat) : IsNumeral (padded width n) := by
  intro c h
  simp only [DesignTokens.padded, String.toList_ofList, List.mem_append, List.mem_replicate] at h
  rcases h with ⟨-, rfl⟩ | digit
  · decide
  · simp [isNumeral, isDigit_of_mem_natText digit]

@[simp] theorem marks : IsNumeral "-" ∧ IsNumeral "+" ∧ IsNumeral ":" ∧ IsNumeral "." ∧
    IsNumeral " " ∧ IsNumeral "" := by
  simp [IsNumeral, isNumeral]

@[simp] theorem date (d : Date) : IsNumeral d.text := by
  simp [Date.text]

@[simp] theorem clock (t : Clock) : IsNumeral t.text := by
  unfold Clock.text
  by_cases hm : t.micro = 0 <;> simp [hm]

theorem offset (seconds : Int) : IsNumeral (Moment.offsetText seconds) := by
  unfold Moment.offsetText
  by_cases hs : seconds < 0 <;> by_cases hn : seconds.natAbs % 60 = 0 <;> simp [hs, hn]

theorem moment (t : Moment) : IsNumeral t.text := by
  unfold Moment.text
  cases t.offset with
  | none => simp
  | some seconds => simp [offset]

end IsNumeral

/-- A step that is neither a word for null or a truth value, nor like octets, nor like a number. -/
def isName (step : Text) : Bool :=
  !([("None" : Text), "True", "False"].contains step) &&
    !step.toList.any (fun l => l = '\'' || l = '"') &&
    step.toList.any fun l => !l.char?.any isNumeral

/-- Only a text is written as a name. -/
theorem text_of_render {key : Atom} {step : Text} (name : isName step)
    (written : key.render? = some step) : key = .text step := by
  simp only [isName, Bool.and_eq_true, Bool.not_eq_true'] at name
  obtain ⟨⟨word, unquoted⟩, letter⟩ := name
  have unlike {text : String} (numeral : IsNumeral text) (same : (text : Text) = step) : False := by
    obtain ⟨l, hl, other⟩ := List.any_eq_true.mp letter
    rw [← same, Text.toList_ofString] at hl
    obtain ⟨c, hc, rfl⟩ := List.mem_map.mp hl
    simp [numeral c hc] at other
  have noWord (known : step ∈ [("None" : Text), "True", "False"]) : False := by
    rw [List.contains_iff_mem.mpr known] at word
    cases word
  cases key with
  | scalar x =>
    cases x with
    | text s => exact congrArg Atom.text (Option.some.inj written)
    | int n =>
      obtain ⟨digits, hn, same⟩ : ∃ digits, intText? n = some digits ∧ (digits : Text) = step :=
        Option.map_eq_some_iff.mp written
      rw [intText_of_intText? hn] at same
      exact (unlike (.intText n) same).elim
    | float x => exact (unlike (.write x) (Option.some.inj written)).elim
  | null => exact (noWord (Option.some.inj written ▸ by decide)).elim
  | bool b => exact (noWord (Option.some.inj written ▸ by cases b <;> decide)).elim
  | date d => exact (unlike (.date d) (Option.some.inj written)).elim
  | moment t => exact (unlike (.moment t) (Option.some.inj written)).elim
  | clock t => exact (unlike (.clock t) (Option.some.inj written)).elim
  | octets bytes =>
    -- Octets are written between quotes.
    have same : (Text.quoteOctets bytes : Text) = step := Option.some.inj written
    have quoted : step.toList.any (fun l => l = '\'' || l = '"') = true := by
      rw [← same, Text.toList_ofString, Text.quoteOctets, String.toList_ofList, List.map_cons,
        List.map_cons, List.any_cons, List.any_cons, Text.chooseQuote]
      split <;> simp
    rw [quoted] at unquoted
    cases unquoted

/-- A step to a token: a name that is neither metadata nor the group of font families. -/
def isStep (step : Text) : Bool :=
  isName step && !isMetadataKey step && !(step = fontFamilyKey : Bool)

/-- The scalar that a value is or collapses to. -/
def Value.token? : Value → Option Scalar
  | .atom (.scalar s) => some s
  | .map node =>
    ((Entries.get? node valueKey).bind Value.scalar?).or
      ((Entries.get? node defaultKey).bind Value.scalar?)
  | _ => none

/-- A mapping that collapses to its scalar `value` and hides the rest. -/
def Value.isWrapper : Value → Bool
  | .map node => ((Entries.get? node valueKey).bind Value.scalar?).isSome
  | _ => false

/-- The token that some steps lead to; there is no way into a wrapper. -/
def Value.tokenAt? (v : Value) : List Text → Option Scalar
  | [] => v.token?
  | step :: rest =>
    if v.isWrapper then none
    else
      match v with
      | .map node => (Entries.get? node step).bind fun next => next.tokenAt? rest
      | _ => none

/-- The token at a position of a document, which is no wrapper itself. -/
def Document.tokenAt? (doc : Document) : List Text → Option Scalar
  | [] => none
  | step :: rest => (Entries.get? doc step).bind fun next => next.tokenAt? rest

/-- A token that steps lead to is one that the walk of flattening finds there, and the other way
round, because each step is the key of one entry only. -/
theorem mem_entryVisits_step {es : Entries} (keyed : (Value.map es).Keyed) {step : Text}
    (plain : isStep step) {rest : List Text} {s : Scalar}
    (below : ∀ v : Value, v.Keyed → (⟨rest, .token s⟩ ∈ v.visits step ↔ v.tokenAt? rest = some s)) :
    ⟨step :: rest, .token s⟩ ∈ entryVisits es ↔
      ((Entries.get? es step).bind fun next => next.tokenAt? rest) = some s := by
  simp only [isStep, Bool.and_eq_true, Bool.not_eq_true'] at plain
  rw [mem_entryVisits_iff, Option.bind_eq_some_iff]
  constructor
  · rintro ⟨_, _, same, -, e, he, written, here⟩
    cases same
    have key := text_of_render plain.1.1 written
    refine ⟨e.2, (Entries.get?_eq_some_iff keyed.once step e.2).mpr (key ▸ he), ?_⟩
    exact (below e.2 (keyed.entry e he)).mp here
  · rintro ⟨v, found, here⟩
    have he := (Entries.get?_eq_some_iff keyed.once step v).mp found
    exact ⟨step, rest, rfl, plain.1.2, _, he, rfl, (below v (keyed.entry _ he)).mpr here⟩

theorem mem_visits_iff {v : Value} (keyed : v.Keyed) {key : Text} (named : key ≠ fontFamilyKey)
    {steps : List Text} (plain : ∀ step ∈ steps, isStep step) (s : Scalar) :
    ⟨steps, .token s⟩ ∈ v.visits key ↔ v.tokenAt? steps = some s := by
  induction steps generalizing v key with
  | nil =>
    cases v with
    | atom a => cases a <;> simp [Value.visits, Visit.here, Value.tokenAt?, Value.token?, eq_comm]
    | list items | tuple items | set members =>
      simp [Value.visits, Visit.here, Value.tokenAt?, Value.token?]
    | map node =>
      have inner : ⟨[], .token s⟩ ∉ entryVisits node := by
        rw [mem_entryVisits_iff]
        rintro ⟨step, rest, same, -⟩
        cases same
      rw [Value.visits, Value.tokenAt?, Value.token?]
      cases (Entries.get? node valueKey).bind Value.scalar? with
      | some x => simp [Visit.here, eq_comm]
      | none =>
        cases Entries.get? node defaultKey with
        | none => simp [named, inner]
        | some default =>
          simp only [List.mem_cons, inner, or_false, Visit.ofDefault, Option.none_or, Option.bind_some]
          cases default.scalar? <;> simp [Visit.here, eq_comm]
  | cons step rest ih =>
    have first := plain step List.mem_cons_self
    have others : ∀ step ∈ rest, isStep step := fun x hx => plain x (List.mem_cons_of_mem _ hx)
    have stepNamed : step ≠ fontFamilyKey := by
      simp only [isStep, Bool.and_eq_true, Bool.not_eq_true', decide_eq_false_iff_not] at first
      exact first.2
    cases v with
    | atom a => cases a <;> simp [Value.visits, Visit.here, Value.tokenAt?]
    | list items | tuple items | set members => simp [Value.visits, Visit.here, Value.tokenAt?]
    | map node =>
      have inner := mem_entryVisits_step (s := s) keyed first fun u hu => ih hu stepNamed others
      rw [Value.visits, Value.tokenAt?, Value.isWrapper]
      cases (Entries.get? node valueKey).bind Value.scalar? with
      | some x => simp [Visit.here]
      | none =>
        cases Entries.get? node defaultKey with
        | none => simp [named, inner]
        | some default =>
          have other : ⟨step :: rest, .token s⟩ ≠ Visit.ofDefault default := by
            unfold Visit.ofDefault
            split <;> simp [Visit.here]
          simp [other, inner]

/-- What flattening finds at a position is the token there. -/
theorem Document.mem_visits_iff {doc : Document} (keyed : doc.Keyed) {steps : List Text}
    (plain : ∀ step ∈ steps, isStep step) (s : Scalar) :
    ⟨steps, .token s⟩ ∈ doc.visits ↔ doc.tokenAt? steps = some s := by
  cases steps with
  | nil =>
    rw [Document.visits, mem_entryVisits_iff, Document.tokenAt?]
    simp
  | cons step rest =>
    have first := plain step List.mem_cons_self
    have named : step ≠ fontFamilyKey := by
      simp only [isStep, Bool.and_eq_true, Bool.not_eq_true', decide_eq_false_iff_not] at first
      exact first.2
    exact mem_entryVisits_step keyed first fun v hv =>
      DesignTokens.mem_visits_iff hv named (fun x hx => plain x (List.mem_cons_of_mem _ hx)) s

/-- The position whose token the flat map has under a path: the last one that is joined to it. -/
def Document.source? (doc : Document) (path : Text) : Option Visit :=
  doc.visits.reverse.find? fun v => (v.emission? "").any fun e => e.1 = path

theorem lookup_filterMap_eq (visits : List Visit) (path : Text) :
    (visits.filterMap (Visit.emission? "")).lookup path =
      (visits.find? fun v => (v.emission? "").any fun e => e.1 = path).bind fun v =>
        (v.emission? "").map Prod.snd := by
  induction visits with
  | nil => rfl
  | cons v rest ih =>
    cases he : v.emission? "" with
    | none => simp [he, ih]
    | some e =>
      rw [List.filterMap_cons_some he, lookup_cons_ite, List.find?_cons, ih, he]
      by_cases same : path = e.1
      · simp [same, he]
      · simp [same, Ne.symm same]

/-- The flat map has the token of the last position that is joined to a path. -/
theorem get?_of_flatten {doc : Document} {flat : FlatMap} (flattened : doc.flatten = .ok flat)
    (path : Text) :
    flat.get? path = (doc.source? path).bind fun v => (v.emission? "").map Prod.snd := by
  rw [flat_eq_putAll flattened, FlatMap.get?_putAll, Document.emissions, ← List.filterMap_reverse,
    lookup_filterMap_eq, Document.source?]

/-- The path that the keys of a position are joined to. -/
def pathOf (steps : List Text) : Text := steps.foldl joinPath ""

/-- No other position stands in the flat map on the path of this one. -/
def Document.Owns (doc : Document) (steps : List Text) : Prop :=
  ∀ v, doc.source? (pathOf steps) = some v → v.keys = steps

theorem Document.source?_eq_some {doc : Document} {path : Text} {v : Visit}
    (found : doc.source? path = some v) :
    v ∈ doc.visits ∧ ∃ s, v.finding = .token s ∧ v.path "" = path := by
  have here : v ∈ doc.visits := List.mem_reverse.mp (List.mem_of_find?_eq_some found)
  have emits := List.find?_some found
  refine ⟨here, ?_⟩
  obtain ⟨keys, finding⟩ := v
  cases finding with
  | token s => exact ⟨s, rfl, by simpa [Visit.emission?] using emits⟩
  | malformed cause => simp [Visit.emission?] at emits
  | unwritten => simp [Visit.emission?] at emits

/-- On a path that a position owns, the flat map has the token that is there, and no other. -/
theorem get?_of_owns {doc : Document} {flat : FlatMap} (keyed : doc.Keyed)
    (flattened : doc.flatten = .ok flat) {steps : List Text}
    (plain : ∀ step ∈ steps, isStep step) (owns : doc.Owns steps) :
    flat.get? (pathOf steps) = doc.tokenAt? steps := by
  rw [get?_of_flatten flattened]
  cases hs : doc.source? (pathOf steps) with
  | none =>
    cases ht : doc.tokenAt? steps with
    | none => rfl
    | some s =>
      have here := List.mem_reverse.mpr ((Document.mem_visits_iff keyed plain s).mpr ht)
      have unseen := List.find?_eq_none.mp hs _ here
      exact absurd (by simp [Visit.emission?, Visit.path, pathOf]) unseen
  | some v =>
    obtain ⟨here, s, finding, -⟩ := Document.source?_eq_some hs
    have keys := owns v hs
    obtain ⟨_, _⟩ := v
    cases finding
    cases keys
    exact ((Document.mem_visits_iff keyed plain s).mp here).symm

/-- In a plainly spelt document every position owns its path. -/
theorem owns_of_spelt {doc : Document} (spelt : doc.Spelt) {steps : List Text}
    (some_ : steps ≠ []) (plain : ∀ step ∈ steps, PlainKey step) : doc.Owns steps := by
  intro v found
  obtain ⟨here, s, finding, path⟩ := Document.source?_eq_some found
  have good := goodPositions_entries doc spelt
  have position : v.keys ∈ positions doc.visits :=
    List.mem_filterMap.mpr ⟨v, here, by rw [Visit.position?, finding]⟩
  obtain ⟨key, rest, keys, -⟩ := good.heads v.keys position
  refine path_injective ?_ some_ (good.plain v.keys position) plain path
  rw [keys]
  exact List.cons_ne_nil key rest

end DesignTokens
