import DesignTokens.Proofs.Entries
import DesignTokens.Proofs.JsonReading
import DesignTokens.Yaml.Document
import Mathlib.Data.List.Forall2

/-!
# The value that a graph stands for

A node whose scalars fit their tags and whose mappings have text keys stands for a value. Making the
parts of the graph round by round gives that value, whatever nodes are shared: what has been made is
either still to be filled or agrees with its node, and each round fills nodes of smaller numbers.
-/

namespace DesignTokens.Yaml

/-- A node stands for a value: a scalar of its tag, a sequence, or a mapping of text keys without
merges. What a node holds has smaller numbers. -/
inductive Denotes (g : Graph) : Ref → Value → Prop
  | scalar {n : Ref} {tag : Tag} {text : Text} {a : Atom} (here : g[n]? = some ⟨tag, .scalar text⟩)
      (fits : scalarValue tag text = .ok a) : Denotes g n (.atom a)
  | sequence {n : Ref} {refs : List Ref} {vs : List Value}
      (here : g[n]? = some ⟨.seq, .sequence refs⟩) (below : ∀ r ∈ refs, r < n)
      (items : List.Forall₂ (Denotes g) refs vs) : Denotes g n (.list vs)
  | mapping {n : Ref} {refs : List (Ref × Ref)} {names : List Text} {vs : List Value}
      (here : g[n]? = some ⟨.map, .mapping refs⟩) (below : ∀ r ∈ refs, r.1 < n ∧ r.2 < n)
      (keys : List.Forall₂ (fun r s => g[r.1]? = some ⟨.text, .scalar s⟩) refs names)
      (members : List.Forall₂ (Denotes g) (refs.map Prod.snd) vs) :
      Denotes g n (.map (Entries.putAll [] (List.zipWith (fun s v => (.text s, v)) names vs)))

section

variable {g : Graph} {n : Ref}

theorem Denotes.lt_size {v : Value} (denotes : Denotes g n v) : n < g.size := by
  cases denotes with
  | scalar here _ | sequence here _ _ | mapping here _ _ _ =>
    exact (Array.getElem?_eq_some_iff.mp here).1

theorem Graph.node_eq {x : Node} (here : g[n]? = some x) : g.node n = x := by
  rw [Graph.node, here]
  rfl

/-- Putting back the entries that are there changes nothing. -/
theorem Graph.setEntries_self {tag : Tag} {refs : List (Ref × Ref)}
    (here : g[n]? = some ⟨tag, .mapping refs⟩) : g.setEntries n refs = g := by
  refine Array.ext_getElem? fun m => ?_
  rw [Graph.setEntries, Array.getElem?_modify]
  split
  · rename_i same
    subst same
    rw [here]
    rfl
  · rfl

theorem Graph.mergeEntries_texts (fuel : Nat) {refs : List (Ref × Ref)}
    (texts : ∀ r ∈ refs, g.tag r.1 = .text) (added own : List (Ref × Ref)) :
    Graph.mergeEntries fuel refs g added own = .ok (g, added, own.reverse ++ refs) := by
  induction refs generalizing own with
  | nil => simp [Graph.mergeEntries]
  | cons r rest ih =>
    obtain ⟨text, texts⟩ := List.forall_mem_cons.mp texts
    rw [Graph.mergeEntries, text]
    dsimp only
    rw [ih texts]
    simp

/-- A mapping of text keys has no merges to carry out. -/
theorem Graph.mergeInto_texts (fuel : Nat) {tag : Tag} {refs : List (Ref × Ref)}
    (here : g[n]? = some ⟨tag, .mapping refs⟩) (texts : ∀ r ∈ refs, g.tag r.1 = .text) :
    Graph.mergeInto (fuel + 1) g n = .ok g := by
  have entries : g.entries? n = some refs := by
    rw [Graph.entries?, Graph.content, Graph.node_eq here]
  rw [Graph.mergeInto, entries]
  dsimp only
  rw [Graph.mergeEntries_texts fuel texts]
  exact congrArg Except.ok (Graph.setEntries_self here)

end

/-- Putting an entry under a text key, seen through the values of the nodes. -/
theorem map_putEntry (f : Ref → Value) (entries : List (Key × Ref)) {k : Key} {s : Text}
    (text : k.atom = .text s) (v : Ref) :
    (putEntry entries k v).map (fun e => (e.1.atom, f e.2)) =
      Entries.put (entries.map fun e => (e.1.atom, f e.2)) (.text s) (f v) := by
  have same (a : Key) : a.same k = a.atom.sameKey (.text s) := by
    simp [Key.same, text]
  unfold putEntry Entries.put
  simp only [same, List.any_map, Function.comp_def]
  split
  · rw [List.map_map, List.map_map]
    refine List.map_congr_left fun e _ => ?_
    dsimp only [Function.comp]
    split <;> rfl
  · simp [text]

/-- A part holds what its node does, and all that it holds has been made. -/
inductive Filled (g : Graph) (b : Building) (n : Ref) : Part → Prop
  | scalar {tag : Tag} {text : Text} {k : Key} (here : g[n]? = some ⟨tag, .scalar text⟩)
      (fits : scalarValue tag text = .ok k.atom) : Filled g b n (.atom k)
  | sequence {refs : List Ref} (here : g[n]? = some ⟨.seq, .sequence refs⟩)
      (items : ∀ r ∈ refs, (b.part? r).isSome) : Filled g b n (.list refs)
  | mapping {refs : List (Ref × Ref)} {names : List Text} {entries : List (Key × Ref)}
      (here : g[n]? = some ⟨.map, .mapping refs⟩)
      (keys : List.Forall₂ (fun r s => g[r.1]? = some ⟨.text, .scalar s⟩) refs names)
      (members : ∀ r ∈ refs, (b.part? r.2).isSome)
      (put : ∀ f : Ref → Value, entries.map (fun e => (e.1.atom, f e.2)) =
        Entries.putAll [] (List.zipWith (fun s r => (.text s, f r.2)) names refs)) :
      Filled g b n (.map entries)

namespace Building

variable {g : Graph} {n : Ref} {b b' b'' : Building} {todo : List Ref} {bound : Ref}

theorem part?_setPart (b : Building) (n : Ref) (p : Part) (m : Ref) :
    (b.setPart n p).part? m = if n = m ∧ n < b.parts.size then some p else b.part? m := by
  rw [part?, Building.setPart, Array.getElem?_setIfInBounds]
  by_cases same : n = m
  · subst same
    by_cases inside : n < b.parts.size
    · simp [inside]
    · simp [part?, inside]
  · simp [part?, same]

/-- A node stands for a value with members. -/
def Collects (g : Graph) (n : Ref) : Prop :=
  ∃ v, Denotes g n v ∧ Part.empty? (g.tag n) ≠ none

/-- Every part agrees with its node, or its node is still to be filled: in this round, where it is
one of `todo`, or in the next one. -/
structure Sound (g : Graph) (todo : List Ref) (b : Building) : Prop where
  graph : b.graph = g
  size : b.parts.size = g.size
  collects : ∀ m, m ∈ b.unfilled ∨ m ∈ todo → Collects g m
  part : ∀ m p, b.part? m = some p → m ∈ b.unfilled ∨ m ∈ todo ∨ Filled g b m p

/-- What making some nodes below a bound comes to. -/
structure Grows (g : Graph) (todo : List Ref) (bound : Ref) (b b' : Building) : Prop where
  sound : Sound g todo b'
  keeps : ∀ m, (b.part? m).isSome → (b'.part? m).isSome
  opens : ∀ m ∈ b'.unfilled, m ∈ b.unfilled ∨ m < bound

theorem Sound.refl (sound : Sound g todo b) : Grows g todo bound b b :=
  ⟨sound, fun _ made => made, fun _ => Or.inl⟩

theorem Grows.trans (first : Grows g todo bound b b') (second : Grows g todo bound b' b'') :
    Grows g todo bound b b'' where
  sound := second.sound
  keeps m made := second.keeps m (first.keeps m made)
  opens m hm := (second.opens m hm).elim (first.opens m) Or.inr

theorem Filled.mono {p : Part} (filled : Filled g b n p)
    (keeps : ∀ m, (b.part? m).isSome → (b'.part? m).isSome) : Filled g b' n p := by
  cases filled with
  | scalar here fits => exact .scalar here fits
  | sequence here items => exact .sequence here fun r hr => keeps r (items r hr)
  | mapping here keys members put =>
    exact .mapping here keys (fun r hr => keeps r.2 (members r hr)) put

theorem isSome_part?_setPart (b : Building) (n : Ref) (p : Part) (m : Ref)
    (made : (b.part? m).isSome) : ((b.setPart n p).part? m).isSome := by
  rw [part?_setPart]
  split
  · rfl
  · exact made

theorem isSome_part?_setPart_self (sound : Sound g todo b) {v : Value} (denotes : Denotes g n v)
    (p : Part) : ((b.setPart n p).part? n).isSome := by
  have inside : n < b.parts.size := sound.size ▸ denotes.lt_size
  simp [part?_setPart, inside]

/-- Setting the part of a node settles it. -/
theorem Sound.setPart (sound : Sound g todo b) {p : Part} (filled : Filled g b n p) :
    Sound g todo (b.setPart n p) where
  graph := sound.graph
  size := by simp [Building.setPart, sound.size]
  collects := sound.collects
  part m q made := by
    rw [part?_setPart] at made
    split at made
    · rename_i same
      obtain ⟨rfl, -⟩ := same
      cases made
      exact Or.inr (Or.inr (Filled.mono filled (isSome_part?_setPart b n p)))
    · exact (sound.part m q made).imp id
        (Or.imp id fun filled => Filled.mono filled (isSome_part?_setPart b n p))

theorem empty?_eq_none {tag : Tag} {text : Text} {a : Atom} (fits : scalarValue tag text = .ok a) :
    Part.empty? tag = none := by
  cases tag <;> first | rfl | cases fits

theorem scalarPart_of_fits {tag : Tag} {text : Text} {a : Atom}
    (here : g[n]? = some ⟨tag, .scalar text⟩) (fits : scalarValue tag text = .ok a) :
    ∃ origin, scalarPart g n = .ok (.atom ⟨a, origin⟩) := by
  have inside : n < g.size := (Array.getElem?_eq_some_iff.mp here).1
  have content : g.content n = .scalar text := by rw [Graph.content, Graph.node_eq here]
  have own : g.text? g.size n = some text := by
    obtain ⟨fuel, size⟩ := Nat.exists_eq_add_one_of_ne_zero (Nat.ne_zero_of_lt inside)
    rw [size, Graph.text?, content]
  have single : g.entries? n = none := by rw [Graph.entries?, content]
  unfold scalarPart
  rw [Graph.tag, Graph.node_eq here, own, single]
  simp only [Option.isSome_none, Bool.and_false, Bool.false_eq_true, if_false, fits]
  exact ⟨_, rfl⟩

/-- Setting a collection aside to be filled in the next round. -/
theorem Sound.defer (sound : Sound g todo b) (collects : Collects g n) (below : n < bound)
    (p : Part) : Grows g todo bound b { b.setPart n p with unfilled := n :: b.unfilled } where
  sound := {
    graph := sound.graph
    size := by simp [Building.setPart, sound.size]
    collects := by
      intro m hm
      rcases hm with hm | hm
      · rcases List.mem_cons.mp hm with rfl | hm
        · exact collects
        · exact sound.collects m (Or.inl hm)
      · exact sound.collects m (Or.inr hm)
    part := by
      intro m q made
      have hset := part?_setPart b n p m
      by_cases same : n = m
      · exact Or.inl (same ▸ List.mem_cons_self)
      · rw [if_neg fun h => same h.1] at hset
        refine (sound.part m q (hset ▸ made)).imp (List.mem_cons_of_mem n) (Or.imp id ?_)
        exact fun filled => Filled.mono filled (isSome_part?_setPart b n p) }
  keeps := isSome_part?_setPart b n p
  opens m hm := by
    rcases List.mem_cons.mp hm with rfl | hm
    · exact Or.inr below
    · exact Or.inl hm

theorem not_collects_text {s : Text} (here : g[n]? = some ⟨.text, .scalar s⟩) :
    ¬Collects g n := by
  rintro ⟨_, _, collection⟩
  rw [Graph.tag, Graph.node_eq here] at collection
  exact collection rfl

theorem Filled.text {p : Part} {s : Text} (filled : Filled g b n p)
    (here : g[n]? = some ⟨.text, .scalar s⟩) : ∃ k, p = .atom k ∧ k.atom = .text s := by
  cases filled with
  | scalar here' fits =>
    rw [here'] at here
    cases here
    exact ⟨_, rfl, (Except.ok.inj fits).symm⟩
  | sequence here' _ | mapping here' _ _ _ => simp [here'] at here

/-- A text is no collection, so its part has been filled once it is made. -/
theorem Sound.text {p : Part} {s : Text} (sound : Sound g todo b) (made : b.part? n = some p)
    (here : g[n]? = some ⟨.text, .scalar s⟩) : ∃ k, p = .atom k ∧ k.atom = .text s := by
  rcases sound.part n p made with h | h | filled
  · exact absurd (sound.collects n (Or.inl h)) (not_collects_text here)
  · exact absurd (sound.collects n (Or.inr h)) (not_collects_text here)
  · exact Filled.text filled here

/-- A node that has no part yet is made, and a text becomes itself. -/
theorem Sound.make_new (sound : Sound g todo b) {v : Value} (denotes : Denotes g n v)
    (below : n < bound) (missing : b.part? n = none) :
    ∃ p b', b.make n = .ok (p, b') ∧ Grows g todo bound b b' ∧ (b'.part? n).isSome ∧
      ∀ s, g[n]? = some ⟨.text, .scalar s⟩ → ∃ k, p = .atom k ∧ k.atom = .text s := by
  unfold Building.make
  rw [missing, sound.graph]
  dsimp only
  have deferred {p : Part} (collection : Part.empty? (g.tag n) = some p) :
      Grows g todo bound b { b.setPart n p with unfilled := n :: b.unfilled } :=
    sound.defer ⟨v, denotes, by simp [collection]⟩ below p
  have made (p : Part) : ((b.setPart n p).part? n).isSome :=
    isSome_part?_setPart_self sound denotes p
  cases denotes with
  | scalar here fits =>
    obtain ⟨origin, hpart⟩ := scalarPart_of_fits here fits
    have filled : Filled g b n (.atom ⟨_, origin⟩) := .scalar here fits
    rw [Graph.tag, Graph.node_eq here, empty?_eq_none fits, hpart]
    exact ⟨_, _, rfl, ⟨sound.setPart filled, isSome_part?_setPart b n _, fun _ => Or.inl⟩, made _,
      fun _ text => Filled.text filled text⟩
  | sequence here below' items =>
    have tag : g.tag n = .seq := by rw [Graph.tag, Graph.node_eq here]
    rw [tag] at deferred ⊢
    exact ⟨_, _, rfl, deferred rfl, made _, by simp [here]⟩
  | mapping here below' keys members =>
    have tag : g.tag n = .map := by rw [Graph.tag, Graph.node_eq here]
    rw [tag] at deferred ⊢
    exact ⟨_, _, rfl, deferred rfl, made _, by simp [here]⟩

/-- Making a node makes it, and a text becomes itself. -/
theorem Sound.make (sound : Sound g todo b) {v : Value} (denotes : Denotes g n v)
    (below : n < bound) :
    ∃ p b', b.make n = .ok (p, b') ∧ Grows g todo bound b b' ∧ (b'.part? n).isSome ∧
      ∀ s, g[n]? = some ⟨.text, .scalar s⟩ → ∃ k, p = .atom k ∧ k.atom = .text s := by
  cases made : b.part? n with
  | none => exact sound.make_new denotes below made
  | some p =>
    have kept : b.make n = .ok (p, b) := by
      unfold Building.make
      rw [made]
    exact ⟨p, b, kept, sound.refl, by rw [made]; rfl, fun _ => sound.text made⟩

theorem Sound.makeAll {refs : List Ref} {vs : List Value} (sound : Sound g todo b)
    (denotes : List.Forall₂ (Denotes g) refs vs) (below : ∀ r ∈ refs, r < bound) :
    ∃ b', b.makeAll refs = .ok b' ∧ Grows g todo bound b b' ∧ ∀ r ∈ refs, (b'.part? r).isSome := by
  induction denotes generalizing b with
  | nil => exact ⟨b, rfl, sound.refl, by simp⟩
  | cons denotes _ ih =>
    obtain ⟨first, below⟩ := List.forall_mem_cons.mp below
    obtain ⟨p, b₁, hmake, grows₁, made₁, -⟩ := sound.make denotes first
    obtain ⟨b₂, hall, grows₂, made₂⟩ := ih grows₁.sound below
    refine ⟨b₂, ?_, grows₁.trans grows₂, List.forall_mem_cons.mpr ⟨grows₂.keeps _ made₁, made₂⟩⟩
    unfold Building.makeAll at hall ⊢
    rw [List.foldlM_cons, hmake]
    exact hall

/-- Going through the entries of a mapping, behind those that are done, with a step that makes key
and value and puts the entry. -/
theorem Sound.putEntries
    {f : List (Key × Ref) × Building → Ref × Ref → Except Fault (List (Key × Ref) × Building)}
    (step : ∀ {done b k v key b₁ q b₂}, b.make k = .ok (.atom key, b₁) → b₁.make v = .ok (q, b₂) →
      f (done, b) (k, v) = .ok (putEntry done key v, b₂))
    {refs : List (Ref × Ref)} {names : List Text} {vs : List Value} (sound : Sound g todo b)
    (keys : List.Forall₂ (fun r s => g[r.1]? = some ⟨.text, .scalar s⟩) refs names)
    (members : List.Forall₂ (Denotes g) (refs.map Prod.snd) vs)
    (below : ∀ r ∈ refs, r.1 < bound ∧ r.2 < bound) (done : List (Key × Ref)) :
    ∃ entries b', refs.foldlM f (done, b) = .ok (entries, b') ∧ Grows g todo bound b b' ∧
      (∀ r ∈ refs, (b'.part? r.2).isSome) ∧
      ∀ value : Ref → Value, entries.map (fun e => (e.1.atom, value e.2)) =
        Entries.putAll (done.map fun e => (e.1.atom, value e.2))
          (List.zipWith (fun s r => (.text s, value r.2)) names refs) := by
  induction keys generalizing b done vs with
  | nil => exact ⟨done, b, rfl, sound.refl, by simp, fun _ => rfl⟩
  | @cons r s refs names text _ ih =>
    obtain ⟨first, below⟩ := List.forall_mem_cons.mp below
    cases members with
    | cons denotes members =>
      obtain ⟨p, b₁, hkey, grows₁, -, key⟩ := sound.make (.scalar text rfl) first.1
      obtain ⟨k, rfl, hk⟩ := key s text
      obtain ⟨q, b₂, hvalue, grows₂, made₂, -⟩ := grows₁.sound.make denotes first.2
      obtain ⟨entries, b₃, hrest, grows₃, made₃, put⟩ :=
        ih grows₂.sound members below (putEntry done k r.2)
      refine ⟨entries, b₃, ?_, (grows₁.trans grows₂).trans grows₃,
        List.forall_mem_cons.mpr ⟨grows₃.keeps _ made₂, made₃⟩, ?_⟩
      · rw [List.foldlM_cons, step hkey hvalue]
        exact hrest
      · intro value
        rw [put value, map_putEntry value done hk]
        rfl

/-- Behind the merges, of which there are none, the entries of a mapping are put one by one. -/
theorem Sound.makeEntries {refs : List (Ref × Ref)} {names : List Text} {vs : List Value}
    (sound : Sound g todo b) (here : g[n]? = some ⟨.map, .mapping refs⟩)
    (keys : List.Forall₂ (fun r s => g[r.1]? = some ⟨.text, .scalar s⟩) refs names)
    (members : List.Forall₂ (Denotes g) (refs.map Prod.snd) vs)
    (below : ∀ r ∈ refs, r.1 < n ∧ r.2 < n) :
    ∃ entries b', b.makeEntries n = .ok (entries, b') ∧ Grows g todo n b b' ∧
      Filled g b' n (.map entries) := by
  have texts : ∀ r ∈ refs, g.tag r.1 = .text := by
    refine ((List.forall₂_and_left refs names).mp (keys.imp fun r s text => ⟨?_, text⟩)).1
    rw [Graph.tag, Graph.node_eq text]
  have own : g.entries? n = some refs := by rw [Graph.entries?, Graph.content, Graph.node_eq here]
  unfold Building.makeEntries
  rw [sound.graph, Graph.mergeInto_texts _ here texts]
  have same : { b with graph := g } = b := by
    cases b
    cases sound.graph
    rfl
  change ∃ entries b', List.foldlM _ ([], { b with graph := g }) ((g.entries? n).getD []) = _ ∧ _
  rw [own, Option.getD_some, same]
  refine (sound.putEntries ?step keys members below []).imp fun entries => Exists.imp fun b' h =>
    ⟨h.1, h.2.1, .mapping here keys h.2.2.1 h.2.2.2⟩
  intro done b k v key b₁ q b₂ hkey hvalue
  dsimp only
  rw [hkey]
  change (do
    let r ← b₁.make v
    pure (putEntry done key v, r.2)) = _
  rw [hvalue]
  rfl

/-- Filling a collection settles it. -/
theorem Sound.fill (sound : Sound g (n :: todo) b) :
    ∃ b', b.fill n = .ok b' ∧ Grows g todo n b b' := by
  obtain ⟨v, denotes, collection⟩ := sound.collects n (Or.inr List.mem_cons_self)
  have settle {b' : Building} {p : Part} (grows : Grows g (n :: todo) n b b')
      (filled : Filled g b' n p) : Grows g todo n b (b'.setPart n p) := by
    have set := grows.sound.setPart filled
    refine ⟨⟨set.graph, set.size, fun m hm => set.collects m (hm.imp id (List.mem_cons_of_mem n)),
      ?_⟩, fun m made => isSome_part?_setPart b' n p m (grows.keeps m made), grows.opens⟩
    intro m q made
    rcases set.part m q made with h | h | h
    · exact Or.inl h
    · rcases List.mem_cons.mp h with rfl | h
      · -- The node itself has the part that was set.
        rw [part?_setPart, if_pos ⟨rfl, grows.sound.size ▸ denotes.lt_size⟩] at made
        cases made
        exact Or.inr (Or.inr (Filled.mono filled (isSome_part?_setPart b' m p)))
      · exact Or.inr (Or.inl h)
    · exact Or.inr (Or.inr h)
  unfold Building.fill
  rw [sound.graph]
  cases denotes with
  | scalar here fits =>
    rw [Graph.tag, Graph.node_eq here] at collection
    exact absurd (empty?_eq_none fits) collection
  | sequence here below items =>
    obtain ⟨b', hall, grows, made⟩ := sound.makeAll items below
    rw [Graph.tag, Graph.content, Graph.node_eq here]
    dsimp only
    rw [hall]
    exact ⟨_, rfl, settle grows (.sequence here made)⟩
  | mapping here below keys members =>
    obtain ⟨entries, b', hentries, grows, filled⟩ := sound.makeEntries here keys members below
    rw [Graph.tag, Graph.content, Graph.node_eq here]
    dsimp only
    rw [hentries]
    exact ⟨_, rfl, settle grows filled⟩

/-- A round fills the collections that were set aside for it. -/
theorem Sound.round (sound : Sound g todo b) (bound : Ref) (below : ∀ m ∈ todo, m ≤ bound) :
    ∃ b', todo.foldlM Building.fill b = .ok b' ∧ Grows g [] bound b b' := by
  induction todo generalizing b with
  | nil => exact ⟨b, rfl, sound.refl⟩
  | cons n rest ih =>
    obtain ⟨first, below⟩ := List.forall_mem_cons.mp below
    obtain ⟨b₁, hfill, grows₁⟩ := sound.fill
    obtain ⟨b₂, hrest, grows₂⟩ := ih grows₁.sound below
    refine ⟨b₂, ?_, grows₂.sound, fun m made => grows₂.keeps m (grows₁.keeps m made), ?_⟩
    · rw [List.foldlM_cons, hfill]
      exact hrest
    · intro m hm
      rcases grows₂.opens m hm with h | h
      · exact (grows₁.opens m h).imp id fun h => Nat.lt_of_lt_of_le h first
      · exact Or.inr h

/-- The numbers that are left get smaller from round to round, so the rounds come to an end. -/
theorem Sound.fillAll {fuel : Nat} (sound : Sound g [] b) (below : ∀ m ∈ b.unfilled, m < bound)
    (enough : bound ≤ fuel) :
    ∃ b', Building.fillAll fuel b = .ok b' ∧ Sound g [] b' ∧ b'.unfilled = [] ∧
      ∀ m, (b.part? m).isSome → (b'.part? m).isSome := by
  induction fuel generalizing b bound with
  | zero =>
    have none : b.unfilled = [] := by
      refine List.eq_nil_iff_forall_not_mem.mpr fun m hm => ?_
      exact absurd (Nat.lt_of_lt_of_le (below m hm) enough) (Nat.not_lt_zero m)
    exact ⟨b, rfl, sound, none, fun _ made => made⟩
  | succ fuel ih =>
    unfold Building.fillAll
    split
    · rename_i none
      exact ⟨b, rfl, sound, List.isEmpty_iff.mp none, fun _ made => made⟩
    · have start : Sound g b.unfilled.reverse { b with unfilled := [] } := by
        refine ⟨sound.graph, sound.size, fun m hm => sound.collects m ?_, fun m p made => ?_⟩
        · simpa using hm
        · rcases sound.part m p made with h | h | h
          · exact Or.inr (Or.inl (List.mem_reverse.mpr h))
          · cases h
          · exact Or.inr (Or.inr (Filled.mono h fun _ made => made))
      obtain ⟨b₁, hround, grows⟩ := start.round (bound - 1) fun m hm =>
        Nat.le_sub_one_of_lt (below m (List.mem_reverse.mp hm))
      have smaller : ∀ m ∈ b₁.unfilled, m < bound - 1 := fun m hm =>
        (grows.opens m hm).elim (fun h => nomatch h) id
      obtain ⟨b₂, hrest, sound₂, none, keeps⟩ :=
        ih grows.sound smaller (Nat.sub_le_of_le_add enough)
      refine ⟨b₂, ?_, sound₂, none, fun m made => keeps m (grows.keeps m made)⟩
      rw [hround]
      exact hrest

theorem map_eq_of_denotes {f : Ref → Value} {refs : List Ref} {vs : List Value}
    (all : List.Forall₂ (Denotes g) refs vs)
    (value : ∀ r ∈ refs, ∀ {v : Value}, Denotes g r v → f r = v) : refs.map f = vs := by
  induction all with
  | nil => rfl
  | cons denotes _ rest =>
    obtain ⟨first, value⟩ := List.forall_mem_cons.mp value
    rw [List.map_cons, first denotes, rest value]

/-- A part that holds what its node does has the value of its node, once all below it have theirs. -/
theorem Filled.value {fuel : Nat} {p : Part} {v : Value} (filled : Filled g b n p)
    (holds : b.part? n = some p) (denotes : Denotes g n v)
    (lower : ∀ m < n, (b.part? m).isSome → ∀ {w : Value}, Denotes g m w → b.value fuel m = w) :
    b.value (fuel + 1) n = v := by
  rw [Building.value, holds]
  cases denotes with
  | scalar here fits =>
    cases filled with
    | scalar here' fits' =>
      rw [here] at here'
      cases here'
      exact congrArg Value.atom (Except.ok.inj (fits'.symm.trans fits))
    | sequence here' _ | mapping here' _ _ _ => simp [here] at here'
  | sequence here below items =>
    cases filled with
    | sequence here' made =>
      rw [here] at here'
      cases here'
      exact congrArg Value.list
        (map_eq_of_denotes items fun r hr => lower r (below r hr) (made r hr))
    | scalar here' _ | mapping here' _ _ _ => simp [here] at here'
  | @mapping refs _ names _ here below keys all =>
    cases filled with
    | @mapping _ names' _ here' keys' made put =>
      rw [here] at here'
      cases here'
      refine congrArg Value.map ((put (b.value fuel)).trans ?_)
      have values := map_eq_of_denotes all
        (List.forall_mem_map.mpr fun r hr => lower r.2 (below r hr).2 (made r hr))
      have same : names' = names := by
        refine List.right_unique_forall₂' (fun {r s t} hs ht => ?_) keys' keys
        simpa using hs.symm.trans ht
      rw [same, ← values, List.map_map, List.zipWith_map_right]
      rfl
    | scalar here' _ | sequence here' _ => simp [here] at here'

/-- Once nothing is left to be filled, a node that has been made has the value it stands for. -/
theorem Sound.value (sound : Sound g [] b) (none : b.unfilled = []) {fuel : Nat} {v : Value}
    (denotes : Denotes g n v) (made : (b.part? n).isSome) (enough : n < fuel) :
    b.value fuel n = v := by
  induction fuel generalizing n v with
  | zero => cases enough
  | succ fuel ih =>
    obtain ⟨p, holds⟩ := Option.isSome_iff_exists.mp made
    have filled : Filled g b n p := by
      rcases sound.part n p holds with h | h | h
      · rw [none] at h
        cases h
      · cases h
      · exact h
    exact Filled.value filled holds denotes fun m below made _ denotes =>
      ih denotes made (Nat.lt_of_lt_of_le below (Nat.le_of_lt_succ enough))

end Building

/-- A graph has the value that its root stands for. -/
theorem Graph.value_of_denotes {g : Graph} {n : Ref} {v : Value} (denotes : Denotes g n v) :
    Graph.value g n = .ok v := by
  have start : Building.Sound g [] (Building.start g) := by
    refine ⟨rfl, by simp [Building.start], by simp [Building.start], fun m p made => ?_⟩
    simp [Building.start, Building.part?, Array.getElem?_replicate] at made
    split at made <;> simp at made
  obtain ⟨p, b₁, hmake, grows, made, -⟩ := start.make denotes denotes.lt_size
  have below : ∀ m ∈ b₁.unfilled, m < g.size :=
    fun m hm => (grows.opens m hm).elim (fun h => nomatch h) id
  obtain ⟨b₂, hall, sound, none, keeps⟩ := grows.sound.fillAll below (Nat.le_succ g.size)
  unfold Graph.value
  rw [hmake]
  dsimp only [bind, Except.bind]
  rw [hall]
  exact congrArg Except.ok (sound.value none denotes (keeps n made) denotes.lt_size)

end DesignTokens.Yaml
