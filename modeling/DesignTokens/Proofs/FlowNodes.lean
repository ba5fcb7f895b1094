import DesignTokens.Proofs.FlowTokens
import DesignTokens.Proofs.GraphValues
import DesignTokens.Proofs.PlainWords

/-!
# The nodes of JSON in YAML

The tokens of a text of JSON are read into a graph whose root stands for the value of the text, its
leaves read as YAML has them. Reading goes along the spelling: each part takes its own tokens and only
adds nodes, so what has been read keeps its value.
-/

namespace DesignTokens.Yaml

open Json (Items Members Spelling quotedToken)

/-- The leaves as YAML has them. -/
def leaves : Json.Leaves :=
  ⟨Json.Word.plain, fun pieces => ⟨pieces.flatMap Json.Piece.units⟩⟩

/-- Nodes have been added, and those that were there are unchanged. -/
def Graph.Extends (g g' : Graph) : Prop := ∀ (n : Ref) (x : Node), g[n]? = some x → g'[n]? = some x

variable {g g' g'' : Graph}

theorem Graph.Extends.trans (first : g.Extends g') (second : g'.Extends g'') : g.Extends g'' :=
  fun n x here => second n x (first n x here)

theorem Graph.extends_push (g : Graph) (x : Node) : g.Extends (g.push x) := by
  intro n y here
  rw [Array.getElem?_push, if_neg (Nat.ne_of_lt (Array.getElem?_eq_some_iff.mp here).1)]
  exact here

/-- A node stands for its value in whatever the graph grows into. -/
theorem Denotes.mono {n : Ref} {v : Value} (denotes : Denotes g n v) (keeps : g.Extends g') :
    Denotes g' n v := by
  induction n using Nat.strong_induction_on generalizing v with
  | _ n ih =>
    have members {refs : List Ref} {vs : List Value} (below : ∀ r ∈ refs, r < n)
        (all : List.Forall₂ (Denotes g) refs vs) : List.Forall₂ (Denotes g') refs vs :=
      ((List.forall₂_and_left _ _).mpr ⟨below, all⟩).imp fun _ _ h => ih _ h.1 h.2
    cases denotes with
    | scalar here fits => exact .scalar (keeps _ _ here) fits
    | sequence here below items => exact .sequence (keeps _ _ here) below (members below items)
    | mapping here below keys all =>
      have values := members (List.forall_mem_map.mpr fun r hr => (below r hr).2) all
      exact .mapping (keeps _ _ here) below (keys.imp fun _ _ => keeps _ _) values

/-- The tokens with which a node of JSON begins. -/
def beginsNode : Token → Bool
  | .scalar _ _ | .flowSequenceStart | .flowMappingStart => true
  | _ => false

theorem beginsNode_tokens (sp : Spelling) : ∃ t ts, sp.tokens = t :: ts ∧ beginsNode t := by
  cases sp <;> exact ⟨_, _, rfl, rfl⟩

theorem beginsNode_items (items : Items) : ∃ t ts, items.tokens = t :: ts ∧ beginsNode t := by
  cases items with
  | last _ item _ | more _ item _ _ =>
    obtain ⟨t, ts, text, begins⟩ := beginsNode_tokens item
    exact ⟨t, _, by rw [Items.tokens, text]; rfl, begins⟩

theorem tokens_pos (sp : Spelling) : 0 < sp.tokens.length := by
  obtain ⟨t, ts, text, -⟩ := beginsNode_tokens sp
  rw [text]
  exact Nat.succ_pos _

theorem begins_ne {t u : Token} (begins : beginsNode t) (other : beginsNode u = false) : t ≠ u := by
  rintro rfl
  rw [begins] at other
  cases other

variable {handles : Handles} {position : Position} {fuel : Nat} {r : Reading} {t : Token}
  {ts : List Token}

theorem next_eq (here : r.rest = t :: ts) (begins : beginsNode t) : r.next = .ok t := by
  rw [Reading.next, here]
  cases t <;> first | rfl | cases begins

theorem header_eq (here : r.rest = t :: ts) (begins : beginsNode t) :
    r.header = .ok (⟨none, none⟩, r) := by
  rw [Reading.header, next_eq here begins]
  cases t <;> first | rfl | cases begins

theorem node_scalar {text : Text} {plain : Bool} (here : r.rest = .scalar text plain :: ts) :
    node handles position (fuel + 1) r =
      .ok (r.skip.add (if plain then .ofLook text else .text) (.scalar text)) := by
  rw [node, next_eq here rfl]
  dsimp only [bind, Except.bind]
  rw [header_eq here rfl]
  dsimp only
  rw [next_eq here rfl]
  rfl

theorem node_sequence (here : r.rest = .flowSequenceStart :: ts) :
    node handles position (fuel + 1) r = do
      let (items, r) ← flowItems handles true fuel r.skip
      return r.add .seq (.sequence items) := by
  rw [node, next_eq here rfl]
  dsimp only [bind, Except.bind]
  rw [header_eq here rfl]
  dsimp only
  rw [next_eq here rfl]
  rfl

theorem node_mapping (here : r.rest = .flowMappingStart :: ts) :
    node handles position (fuel + 1) r = do
      let (entries, r) ← flowEntries handles true fuel r.skip
      return r.add .map (.mapping entries) := by
  rw [node, next_eq here rfl]
  dsimp only [bind, Except.bind]
  rw [header_eq here rfl]
  dsimp only
  rw [next_eq here rfl]
  rfl

theorem flowItems_end {first : Bool} (here : r.rest = .flowSequenceEnd :: ts) :
    flowItems handles first (fuel + 1) r = .ok ([], r.skip) := by
  have next : r.next = .ok .flowSequenceEnd := by rw [Reading.next, here]
  rw [flowItems, next]
  rfl

theorem flowEntries_end {first : Bool} (here : r.rest = .flowMappingEnd :: ts) :
    flowEntries handles first (fuel + 1) r = .ok ([], r.skip) := by
  have next : r.next = .ok .flowMappingEnd := by rw [Reading.next, here]
  rw [flowEntries, next]
  rfl

theorem flowItems_node (here : r.rest = t :: ts) (begins : beginsNode t) :
    flowItems handles true (fuel + 1) r = do
      let (n, r) ← node handles .flow fuel r
      let (more, r) ← flowItems handles false fuel r
      return (n :: more, r) := by
  rw [flowItems, next_eq here begins]
  simp [bind, Except.bind, next_eq here begins, begins_ne begins (u := .flowSequenceEnd) rfl,
    begins_ne begins (u := .key) rfl]

/-- Behind a comma the items go on as at their start. -/
theorem flowItems_comma (here : r.rest = .flowEntry :: t :: ts) (begins : beginsNode t) :
    flowItems handles false (fuel + 1) r = flowItems handles true (fuel + 1) r.skip := by
  have next : r.next = .ok .flowEntry := by rw [Reading.next, here]
  have behind : r.skip.rest = t :: ts := by rw [Reading.skip, here]; rfl
  rw [flowItems, flowItems, next]
  simp [bind, Except.bind, Reading.expect, next, next_eq behind begins,
    begins_ne begins (u := .flowSequenceEnd) rfl, pure, Except.pure]

theorem flowEntries_comma (here : r.rest = .flowEntry :: .key :: ts) :
    flowEntries handles false (fuel + 1) r = flowEntries handles true (fuel + 1) r.skip := by
  have next : r.next = .ok .flowEntry := by rw [Reading.next, here]
  have behind : r.skip.next = .ok .key := by rw [Reading.next, Reading.skip, here]; rfl
  rw [flowEntries, flowEntries, next]
  simp [bind, Except.bind, Reading.expect, next, behind, pure, Except.pure]

/-- A member is its name, as a text, and its value. -/
theorem flowEntry_name {text : Text} (here : r.rest = .scalar text false :: .value :: t :: ts)
    (begins : beginsNode t) :
    flowEntry handles endsFlowEntry (fuel + 2) r = do
      let (k, r) := r.skip.add .text (.scalar text)
      let (v, r) ← node handles .flow (fuel + 1) r.skip
      return ((k, v), r) := by
  have value : (r.skip.add .text (.scalar text)).2.next = .ok .value := by
    rw [Reading.next, Reading.add, Reading.skip, here]
    rfl
  have behind : (r.skip.add .text (.scalar text)).2.skip.rest = t :: ts := by
    rw [Reading.skip, Reading.add, Reading.skip, here]
    rfl
  rw [flowEntry, next_eq here rfl]
  simp [bind, Except.bind, endsFlowEntry, node_scalar here, value, next_eq behind begins,
    begins_ne begins (u := .flowEntry) rfl, begins_ne begins (u := .flowMappingEnd) rfl]

theorem flowEntries_key (here : r.rest = .key :: ts) :
    flowEntries handles true (fuel + 1) r = do
      let (entry, r) ← flowEntry handles endsFlowEntry fuel r.skip
      let (more, r) ← flowEntries handles false fuel r
      return (entry :: more, r) := by
  have next : r.next = .ok .key := by rw [Reading.next, here]
  rw [flowEntries, next]
  simp [bind, Except.bind, next]

/-- Reading has come in front of a rest and has kept the nodes. -/
structure Comes (r r' : Reading) (rest : List Token) : Prop where
  rest : r'.rest = rest
  keeps : r.nodes.Extends r'.nodes

/-- A node is read that stands for a value. -/
def Gives (read : Except Fault (Ref × Reading)) (r : Reading) (rest : List Token) (v : Value) : Prop :=
  ∃ n r', read = .ok (n, r') ∧ Comes r r' rest ∧ Denotes r'.nodes n v

/-- Nodes are read that stand for some values. -/
def GivesItems (read : Except Fault (List Ref × Reading)) (r : Reading) (rest : List Token)
    (vs : List Value) : Prop :=
  ∃ refs r', read = .ok (refs, r') ∧ Comes r r' rest ∧ List.Forall₂ (Denotes r'.nodes) refs vs

/-- Entries are read whose keys are texts and whose values stand for some values. -/
def GivesEntries (read : Except Fault (List (Ref × Ref) × Reading)) (r : Reading)
    (rest : List Token) (es : Entries) : Prop :=
  ∃ refs r' names vs, read = .ok (refs, r') ∧ Comes r r' rest ∧
    List.Forall₂ (fun r s => r'.nodes[r.1]? = some ⟨.text, .scalar s⟩) refs names ∧
    List.Forall₂ (Denotes r'.nodes) (refs.map Prod.snd) vs ∧
    es = List.zipWith (fun s v => (.text s, v)) names vs

variable {rest mid : List Token} {v : Value} {vs : List Value} {es : Entries}

theorem Comes.trans {r r' r'' : Reading} (first : Comes r r' mid) (second : Comes r' r'' rest) :
    Comes r r'' rest :=
  ⟨second.rest, first.keeps.trans second.keeps⟩

/-- A new node holds what it is made of, and all others keep their values. -/
theorem comes_add {r r' : Reading} (comes : Comes r r' rest) (tag : Tag) (content : Content) :
    Comes r (r'.add tag content).2 rest ∧
      (r'.add tag content).2.nodes[(r'.add tag content).1]? = some ⟨tag, content⟩ := by
  refine ⟨⟨comes.rest, comes.keeps.trans (Graph.extends_push _ _)⟩, ?_⟩
  exact Array.getElem?_push_size

theorem comes_skip (here : r.rest = t :: ts) : Comes r r.skip ts :=
  ⟨by rw [Reading.skip, here]; rfl, fun _ _ h => h⟩

theorem gives_scalar {text : Text} (plain : Bool) {a : Atom}
    (here : r.rest = .scalar text plain :: rest)
    (fits : scalarValue (if plain then .ofLook text else .text) text = .ok a) :
    Gives (node handles position (fuel + 1) r) r rest (.atom a) := by
  obtain ⟨comes, new⟩ := comes_add (comes_skip here) (if plain then .ofLook text else .text) (.scalar text)
  exact ⟨_, _, node_scalar here, comes, .scalar new fits⟩

theorem forall_mem_of_forall₂ {α β : Type} {R : α → β → Prop} {P : α → Prop} {as : List α} {bs : List β}
    (imp : ∀ a b, R a b → P a) (all : List.Forall₂ R as bs) : ∀ a ∈ as, P a :=
  ((List.forall₂_and_left as bs).mp (all.imp fun a b h => ⟨imp a b h, h⟩)).1

theorem gives_sequence (here : r.rest = .flowSequenceStart :: ts)
    (items : GivesItems (flowItems handles true fuel r.skip) r.skip rest vs) :
    Gives (node handles position (fuel + 1) r) r rest (.list vs) := by
  obtain ⟨refs, r', read, comes, all⟩ := items
  obtain ⟨added, new⟩ := comes_add ((comes_skip here).trans comes) .seq (.sequence refs)
  have below := forall_mem_of_forall₂ (fun _ _ d => d.lt_size) all
  have values := all.imp fun _ _ d => d.mono (Graph.extends_push r'.nodes ⟨.seq, .sequence refs⟩)
  exact ⟨_, _, by rw [node_sequence here, read]; rfl, added, .sequence new below values⟩

theorem gives_mapping (here : r.rest = .flowMappingStart :: ts)
    (entries : GivesEntries (flowEntries handles true fuel r.skip) r.skip rest es) :
    Gives (node handles position (fuel + 1) r) r rest (.map (Entries.putAll [] es)) := by
  obtain ⟨refs, r', names, vs, read, comes, keys, all, rfl⟩ := entries
  obtain ⟨added, new⟩ := comes_add ((comes_skip here).trans comes) .map (.mapping refs)
  have keeps := Graph.extends_push r'.nodes ⟨.map, .mapping refs⟩
  have below₁ := forall_mem_of_forall₂ (P := fun e : Ref × Ref => e.1 < r'.nodes.size)
    (fun _ _ key => (Array.getElem?_eq_some_iff.mp key).1) keys
  have below₂ := List.forall_mem_map.mp (forall_mem_of_forall₂ (fun _ _ d => d.lt_size) all)
  exact ⟨_, _, by rw [node_mapping here, read]; rfl, added,
    .mapping new (fun e he => ⟨below₁ e he, below₂ e he⟩) (keys.imp fun _ _ => keeps _ _)
      (all.imp fun _ _ d => d.mono keeps)⟩

theorem givesItems_end {first : Bool} (here : r.rest = .flowSequenceEnd :: rest) :
    GivesItems (flowItems handles first (fuel + 1) r) r rest [] :=
  ⟨[], r.skip, flowItems_end here, comes_skip here, .nil⟩

theorem givesEntries_end {first : Bool} (here : r.rest = .flowMappingEnd :: rest) :
    GivesEntries (flowEntries handles first (fuel + 1) r) r rest [] :=
  ⟨[], r.skip, [], [], flowEntries_end here, comes_skip here, .nil, .nil, rfl⟩

theorem givesItems_cons (here : r.rest = t :: ts) (begins : beginsNode t)
    (item : Gives (node handles .flow fuel r) r mid v)
    (more : ∀ r' : Reading, r'.rest = mid → GivesItems (flowItems handles false fuel r') r' rest vs) :
    GivesItems (flowItems handles true (fuel + 1) r) r rest (v :: vs) := by
  obtain ⟨n, r₁, read, comes, denotes⟩ := item
  obtain ⟨refs, r₂, reads, goes, all⟩ := more r₁ comes.rest
  refine ⟨n :: refs, r₂, ?_, comes.trans goes, .cons (denotes.mono goes.keeps) all⟩
  rw [flowItems_node here begins, read]
  dsimp only [bind, Except.bind]
  rw [reads]
  rfl

theorem givesEntries_cons {text : Text}
    (here : r.rest = .key :: .scalar text false :: .value :: t :: ts) (begins : beginsNode t)
    (member : ∀ r' : Reading, r'.rest = t :: ts → Gives (node handles .flow (fuel + 1) r') r' mid v)
    (more : ∀ r' : Reading, r'.rest = mid →
      GivesEntries (flowEntries handles false (fuel + 2) r') r' rest es) :
    GivesEntries (flowEntries handles true (fuel + 3) r) r rest ((.text text, v) :: es) := by
  have name : r.skip.rest = .scalar text false :: .value :: t :: ts := (comes_skip here).rest
  obtain ⟨added, key⟩ := comes_add ((comes_skip here).trans (comes_skip name)) .text (.scalar text)
  have colon := comes_skip added.rest
  obtain ⟨n, r₁, read, comes, denotes⟩ := member _ colon.rest
  obtain ⟨refs, r₂, names, vs, reads, goes, keys, all, rfl⟩ := more r₁ comes.rest
  refine ⟨((r.skip.skip.add .text (.scalar text)).1, n) :: refs, r₂, text :: names, v :: vs, ?_,
    added.trans (colon.trans (comes.trans goes)), .cons ?_ keys, .cons (denotes.mono goes.keeps) all, rfl⟩
  · rw [flowEntries_key here, flowEntry_name name begins]
    dsimp only [bind, Except.bind]
    rw [read]
    dsimp only [pure, Except.pure]
    rw [reads]
  · exact goes.keeps _ _ (comes.keeps _ _ key)

theorem givesItems_comma (here : r.rest = .flowEntry :: t :: ts) (begins : beginsNode t)
    (items : GivesItems (flowItems handles true (fuel + 1) r.skip) r.skip rest vs) :
    GivesItems (flowItems handles false (fuel + 1) r) r rest vs := by
  obtain ⟨refs, r', read, comes, all⟩ := items
  exact ⟨refs, r', (flowItems_comma here begins).trans read, (comes_skip here).trans comes, all⟩

theorem givesEntries_comma (here : r.rest = .flowEntry :: .key :: ts)
    (entries : GivesEntries (flowEntries handles true (fuel + 1) r.skip) r.skip rest es) :
    GivesEntries (flowEntries handles false (fuel + 1) r) r rest es := by
  obtain ⟨refs, r', names, vs, read, comes, keys, all, same⟩ := entries
  exact ⟨refs, r', names, vs, (flowEntries_comma here).trans read, (comes_skip here).trans comes, keys,
    all, same⟩

mutual

/-- A value is read from its own tokens; a step is made for each of them at most. -/
theorem gives_spelling (sp : Spelling) {handles : Handles} {position : Position} {fuel : Nat}
    {r : Reading} {rest : List Token} (here : r.rest = sp.tokens ++ rest)
    (enough : sp.tokens.length ≤ fuel) :
    Gives (node handles position fuel r) r rest (sp.value leaves) := by
  obtain ⟨fuel, rfl⟩ : ∃ f, fuel = f + 1 := ⟨fuel - 1, by have := tokens_pos sp; omega⟩
  cases sp with
  | word w =>
    obtain ⟨a, value, fits⟩ := fits_word w
    rw [show (Spelling.word w).value leaves = .atom a from value]
    exact gives_scalar true here fits
  | quoted pieces => exact gives_scalar false here rfl
  | emptyList inside =>
    obtain ⟨fuel, rfl⟩ : ∃ f, fuel = f + 1 := ⟨fuel - 1, by simp [Spelling.tokens] at enough; omega⟩
    exact gives_sequence here (givesItems_end (comes_skip here).rest)
  | list items =>
    exact gives_sequence here
      (gives_items items (comes_skip here).rest (Nat.le_of_succ_le_succ enough))
  | emptyMap inside =>
    obtain ⟨fuel, rfl⟩ : ∃ f, fuel = f + 1 := ⟨fuel - 1, by simp [Spelling.tokens] at enough; omega⟩
    exact gives_mapping here (givesEntries_end (comes_skip here).rest)
  | map members =>
    exact gives_mapping here
      (gives_members members (comes_skip here).rest (Nat.le_of_succ_le_succ enough))

/-- The items of a list and its end. -/
theorem gives_items (items : Items) {handles : Handles} {fuel : Nat} {r : Reading} {rest : List Token}
    (here : r.rest = items.tokens ++ rest) (enough : items.tokens.length ≤ fuel) :
    GivesItems (flowItems handles true fuel r) r rest (items.values leaves) := by
  cases items with
  | last before item behind =>
    simp only [Items.tokens, List.append_assoc, List.length_append, List.length_singleton,
      List.singleton_append] at here enough
    have pos := tokens_pos item
    obtain ⟨t, ts, text, begins⟩ := beginsNode_tokens item
    obtain ⟨fuel, rfl⟩ : ∃ f, fuel = f + 2 := ⟨fuel - 2, by omega⟩
    have start : r.rest = t :: (ts ++ .flowSequenceEnd :: rest) := by rw [here, text]; rfl
    exact givesItems_cons start begins (gives_spelling item here (by omega)) fun _ => givesItems_end
  | more before item behind others =>
    simp only [Items.tokens, List.append_assoc, List.length_append, List.length_cons,
      List.cons_append] at here enough
    have pos := tokens_pos item
    obtain ⟨t, ts, text, begins⟩ := beginsNode_tokens item
    obtain ⟨u, us, next, goesOn⟩ := beginsNode_items others
    obtain ⟨fuel, rfl⟩ : ∃ f, fuel = f + 2 := ⟨fuel - 2, by omega⟩
    have start : r.rest = t :: (ts ++ .flowEntry :: (others.tokens ++ rest)) := by rw [here, text]; rfl
    refine givesItems_cons start begins (gives_spelling item here (by omega)) fun r' comma => ?_
    have entry : r'.rest = .flowEntry :: u :: (us ++ rest) := by rw [comma, next]; rfl
    refine givesItems_comma entry goesOn ?_
    exact gives_items others (comes_skip comma).rest (by omega)

/-- The members of a mapping and its end. -/
theorem gives_members (members : Members) {handles : Handles} {fuel : Nat} {r : Reading}
    {rest : List Token} (here : r.rest = members.tokens ++ rest)
    (enough : members.tokens.length ≤ fuel) :
    GivesEntries (flowEntries handles true fuel r) r rest (members.entries leaves) := by
  cases members with
  | last name member behind =>
    simp only [Members.tokens, Json.Name.tokens, List.append_assoc, List.length_append,
      List.length_cons, List.length_nil, List.cons_append, List.nil_append] at here enough
    obtain ⟨t, ts, text, begins⟩ := beginsNode_tokens member
    obtain ⟨fuel, rfl⟩ : ∃ f, fuel = f + 3 := ⟨fuel - 3, by omega⟩
    rw [text, List.cons_append] at here
    exact givesEntries_cons here begins
      (fun r' at_ => gives_spelling member (by rw [at_, text]; rfl) (by omega))
      fun _ => givesEntries_end
  | more name member behind others =>
    simp only [Members.tokens, Json.Name.tokens, List.append_assoc, List.length_append,
      List.length_cons, List.cons_append, List.nil_append] at here enough
    obtain ⟨t, ts, text, begins⟩ := beginsNode_tokens member
    obtain ⟨us, next⟩ : ∃ us, others.tokens = .key :: us := by cases others <;> exact ⟨_, rfl⟩
    obtain ⟨fuel, rfl⟩ : ∃ f, fuel = f + 3 := ⟨fuel - 3, by omega⟩
    rw [text, List.cons_append] at here
    refine givesEntries_cons here begins
      (fun r' at_ => gives_spelling member (by rw [at_, text]; rfl) (by omega)) fun r' comma => ?_
    have entry : r'.rest = .flowEntry :: .key :: (us ++ rest) := by rw [comma, next]; rfl
    refine givesEntries_comma entry ?_
    exact gives_members others (comes_skip comma).rest (by omega)

end

/-- Tokens that begin with a node are one document if reading them comes to their end. -/
theorem document_of_node (begins : beginsNode t) {n : Ref} {r : Reading}
    (read : node usualHandles .block (4 * (t :: ts).length + 4) (.ofTokens (t :: ts)) = .ok (n, r))
    (ends : r.rest = [.streamEnd]) : document (t :: ts) = .ok (some (n, r.nodes)) := by
  have ended : documentEnd r = .ok () := by
    rw [documentEnd, ends]
    rfl
  unfold document
  dsimp only
  rw [next_eq (r := .ofTokens (t :: ts)) rfl begins]
  dsimp only [bind, Except.bind]
  cases t with
  | scalar _ _ | flowSequenceStart | flowMappingStart =>
    dsimp only
    rw [read]
    dsimp only
    rw [ended]
    rfl
  | _ => cases begins

/-- A text of JSON is one document, whose root stands for the value of the text. -/
theorem document_eq (sp : Spelling) :
    ∃ n g, document (sp.tokens ++ [.streamEnd]) = .ok (some (n, g)) ∧ Denotes g n (sp.value leaves) := by
  obtain ⟨t, ts, text, begins⟩ := beginsNode_tokens sp
  have gives (fuel : Nat) (enough : sp.tokens.length ≤ fuel) :
      Gives (node usualHandles .block fuel (.ofTokens (sp.tokens ++ [.streamEnd])))
        (.ofTokens (sp.tokens ++ [.streamEnd])) [.streamEnd] (sp.value leaves) :=
    gives_spelling sp rfl enough
  obtain ⟨n, r, read, comes, denotes⟩ := gives (4 * (sp.tokens ++ [Token.streamEnd]).length + 4)
    (by rw [List.length_append]; omega)
  refine ⟨n, r.nodes, ?_, denotes⟩
  rw [text] at read ⊢
  exact document_of_node begins read comes.rest

end DesignTokens.Yaml
