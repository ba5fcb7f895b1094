import DesignTokens.Proofs.Decoding

/-!
# Token groups

What stands under a key at the top of a document is a group. The paths of its tokens are the key
itself or continue it behind a dash, however deep the tokens are. So all of them belong to the
category of the key, because no word of a category has a dash in it; and a change of the group is not
seen on any other path.
-/

namespace DesignTokens

/-- A path is that of a group or continues it behind a dash. -/
def inGroup (group path : Text) : Bool :=
  path = group || Category.startsWith (group ++ "-") path

theorem startsWith_iff (word path : Text) :
    Category.startsWith word path = true ↔ word.toList <+: path.toList :=
  List.isPrefixOf_iff_prefix

theorem inGroup_iff (group path : Text) :
    inGroup group path = true ↔ path = group ∨ ∃ rest, path = group ++ "-" ++ rest := by
  rw [inGroup, Bool.or_eq_true, decide_eq_true_eq, startsWith_iff]
  apply or_congr_right
  constructor
  · rintro ⟨rest, same⟩
    refine ⟨Text.ofList rest, Text.toList_inj.mp ?_⟩
    rw [Text.toList_append, Text.toList_ofList, same]
  · rintro ⟨rest, rfl⟩
    exact ⟨rest.toList, (Text.toList_append ..).symm⟩

/-- Whatever keys follow that of a group, their path is in the group. -/
theorem inGroup_path {group : Text} (named : group ≠ "") (rest : List Text) :
    inGroup group ((group :: rest).foldl joinPath "") = true := by
  rw [path_of_cons named, inGroup_iff]
  cases rest with
  | nil => exact Or.inl (Text.append_empty _)
  | cons key rest =>
    refine Or.inr ⟨key ++ Text.join (rest.map ("-" ++ ·)), ?_⟩
    rw [List.map_cons, Text.join_cons]
    simp only [Text.append_assoc]

/-- A custom property has its name in the group that its path is in. -/
theorem inGroup_variableName (group path : Text) :
    inGroup (variableName group) (variableName path) = inGroup group path := by
  rw [Bool.eq_iff_iff, inGroup_iff, inGroup_iff]
  simp only [variableName, Text.append_assoc, Text.append_right_inj]

/-- The paths of the tokens under a key at the top of a document, at any depth. -/
def Document.groupPaths (doc : Document) (group : Text) : List Text :=
  ((doc.visits.filter fun v => v.keys.head? = some group).filterMap (Visit.emission? "")).map
    Prod.fst

section

variable {doc : Document} {group : Text}

theorem Document.mem_groupPaths_iff {path : Text} :
    path ∈ doc.groupPaths group ↔
      ∃ rest s, ⟨group :: rest, .token s⟩ ∈ doc.visits ∧
        path = (group :: rest).foldl joinPath "" := by
  have emitted : path ∈ doc.groupPaths group ↔ ∃ s, (path, s) ∈
      (doc.visits.filter fun v => v.keys.head? = some group).filterMap (Visit.emission? "") := by
    simp [groupPaths]
  simp only [emitted, mem_filterMap_emission?_iff, List.mem_filter, decide_eq_true_eq]
  constructor
  · rintro ⟨s, keys, ⟨visited, head⟩, joined⟩
    obtain ⟨rest, rfl⟩ := List.head?_eq_some_iff.mp head
    exact ⟨rest, s, visited, joined⟩
  · rintro ⟨rest, s, visited, joined⟩
    exact ⟨s, group :: rest, ⟨visited, rfl⟩, joined⟩

theorem Document.inGroup_of_mem_groupPaths (named : group ≠ "") {path : Text}
    (emitted : path ∈ doc.groupPaths group) : inGroup group path = true := by
  obtain ⟨rest, -, -, rfl⟩ := mem_groupPaths_iff.mp emitted
  exact inGroup_path named rest

theorem Document.mem_paths_of_mem_groupPaths {flat : FlatMap} (flattened : doc.flatten = .ok flat)
    {path : Text} (emitted : path ∈ doc.groupPaths group) : path ∈ flat.paths := by
  obtain ⟨rest, s, visited, joined⟩ := mem_groupPaths_iff.mp emitted
  have emits := (mem_emissions_iff doc "" path s).mpr ⟨_, visited, joined⟩
  rw [paths_of_flattenUnder flattened]
  exact List.mem_eraseDups.mpr (List.mem_map_of_mem emits)

/-- A word without a dash starts a path of a group just if it starts the group. -/
theorem startsWith_of_inGroup {word path : Text} (dashless : .char '-' ∉ word.toList)
    (inside : inGroup group path = true) :
    Category.startsWith word path = Category.startsWith word group := by
  rcases (inGroup_iff group path).mp inside with rfl | ⟨rest, rfl⟩
  · rfl
  · have letters : (group ++ "-" ++ rest).toList =
        group.toList ++ .char '-' :: rest.toList := by simp
    have first : group.toList ++ [.char '-'] <+: group.toList ++ .char '-' :: rest.toList :=
      ⟨rest.toList, by simp⟩
    rw [Bool.eq_iff_iff, startsWith_iff, startsWith_iff, letters]
    constructor
    · intro starts
      rcases Nat.lt_or_ge group.toList.length word.toList.length with longer | short
      · -- A longer word would have the dash behind the group in it.
        have dash : group.toList ++ [.char '-'] <+: word.toList := by
          apply List.prefix_of_prefix_length_le first starts
          simpa [Nat.succ_le_iff] using longer
        exact absurd (dash.subset (by simp)) dashless
      · exact List.prefix_of_prefix_length_le starts (List.prefix_append _ _) short
    · intro starts
      exact starts.trans (List.prefix_append _ _)

theorem Category.dashless_rules : ∀ r ∈ rules, .char '-' ∉ (r.1 : Text).toList := by
  decide

/-- The category of a path is that of its group. -/
theorem ofPath_of_inGroup {path : Text} (inside : inGroup group path = true) :
    Category.ofPath path = Category.ofPath group := by
  have same : (Category.rules.find? fun r => Category.startsWith r.1 path) =
      Category.rules.find? fun r => Category.startsWith r.1 group := by
    rw [← List.head?_filter, ← List.head?_filter]
    apply congrArg List.head?
    apply List.filter_congr
    intro r hr
    exact startsWith_of_inGroup (Category.dashless_rules r hr) inside
  rw [Category.ofPath, Category.ofPath, same]

end

/-- The tokens under a key at the top of a document, at any depth, are flat tokens of the category of
that key. In the base style sheet all of them are declared in the section of that category, in the
order in which the document first comes to their paths. -/
theorem group_is_in_one_section {doc : Document} {flat : FlatMap}
    (flattened : doc.flatten = .ok flat) {group : Text} (named : group ≠ "") :
    (∀ path ∈ doc.groupPaths group,
      path ∈ flat.paths ∧ Category.ofPath path = Category.ofPath group) ∧
    ∀ text, Sheet.generateBase doc = .ok text →
      ∃ ds, flat.WrittenAs ds ∧ text = (Sheet.base ds).render ∧
        (∀ c, c ≠ Category.ofPath group → ∀ d ∈ ds.inCategory c, d.1 ∉ doc.groupPaths group) ∧
        ((ds.inCategory (Category.ofPath group)).map Prod.fst).filter
            (· ∈ doc.groupPaths group) =
          ((doc.emissions "").map Prod.fst).eraseDups.filter (· ∈ doc.groupPaths group) := by
  have category {path : Text} (emitted : path ∈ doc.groupPaths group) :
      Category.ofPath path = Category.ofPath group :=
    ofPath_of_inGroup (Document.inGroup_of_mem_groupPaths named emitted)
  constructor
  · intro path emitted
    exact ⟨Document.mem_paths_of_mem_groupPaths flattened emitted, category emitted⟩
  · intro text generated
    obtain ⟨ds, values, rfl⟩ := (Sheet.generateBase_eq_ok_iff flattened text).mp generated
    refine ⟨ds, values, rfl, ?_, ?_⟩
    · intro c other d hd emitted
      have here : Category.ofPath d.1 = c := of_decide_eq_true (List.mem_filter.mp hd).2
      exact other (here.symm.trans (category emitted))
    · have order : ((doc.emissions "").map Prod.fst).eraseDups = ds.map Prod.fst := by
        rw [values.paths, ← paths_of_flattenUnder flattened]
      rw [order, Declarations.inCategory, List.filter_map, List.filter_map, List.filter_filter]
      apply congrArg
      apply List.filter_congr
      intro d _
      by_cases emitted : d.1 ∈ doc.groupPaths group
      · simp [emitted, category emitted]
      · simp [emitted]

/-- A group with words of other categories in it, and a key that is joined to one of its paths. -/
def Document.deck : Document :=
  [(.text "slide-shadow", .text "1px"), (.text "border", .text "2px"),
    (.text "slide", .map [(.text "font", .map [(.text "DEFAULT", .text "serif"),
      (.text "spacing", .text "1em")]), (.text "shadow", .text "none")])]

def deckFlat : FlatMap :=
  [("slide-shadow", .text "none"), ("border", .text "2px"), ("slide-font", .text "serif"),
    ("slide-font-DEFAULT", .text "serif"), ("slide-font-spacing", .text "1em")]

theorem group_is_in_one_section_deck :
    Document.deck.flatten = .ok deckFlat ∧ ("slide" : Text) ≠ "" ∧
      Category.ofPath "slide-font-spacing" = .colors ∧
      ∃ text ds, Sheet.generateBase .deck = .ok text ∧ deckFlat.WrittenAs ds ∧
        text = (Sheet.base ds).render ∧
        ((ds.inCategory .colors).map Prod.fst).filter (· ∈ Document.deck.groupPaths "slide") =
          ["slide-shadow", "slide-font", "slide-font-DEFAULT", "slide-font-spacing"] := by
  have flattened : Document.deck.flatten = .ok deckFlat := rfl
  have named : ("slide" : Text) ≠ "" := by decide
  have colors : Category.ofPath "slide" = .colors := by decide
  have generated : Sheet.generateBase .deck = .ok (Sheet.base [("slide-shadow", "none"),
      ("border", "2px"), ("slide-font", "serif"), ("slide-font-DEFAULT", "serif"),
      ("slide-font-spacing", "1em")]).render :=
    Sheet.generateBase_of_declarations flattened rfl
  obtain ⟨inside, sheet⟩ := group_is_in_one_section flattened named
  obtain ⟨ds, values, same, -, order⟩ := sheet _ generated
  have spacing := inside "slide-font-spacing" (by decide +kernel)
  refine ⟨flattened, named, spacing.2.trans colors, _, ds, generated, values, same, ?_⟩
  rw [← colors, order]
  decide +kernel

end DesignTokens
