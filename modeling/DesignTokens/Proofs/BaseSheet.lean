import DesignTokens.Access
import DesignTokens.Proofs.Flattening
import Mathlib.Data.List.Forall2
import Mathlib.Data.List.Perm.Basic

/-!
# The text of the base style sheet

The base style sheet is given line by line: an opening, the sections of the flat tokens, and the
rule of dark mode. Every entry of the flat map is declared in one section and once, under the name it
has among the variables. There is such a text unless a number has too many digits.
-/

namespace DesignTokens

/-- A whole number of too many digits. -/
def Scalar.Overlong (s : Scalar) : Prop := ∃ n, s = .int n ∧ Nat.pow 10 maxDigits ≤ n.natAbs

theorem css?_eq_none_iff (s : Scalar) : (Value.scalar s).css? = none ↔ s.Overlong := by
  cases s with
  | text s => simp [Value.css?, Value.render?, Atom.render?, Scalar.render?, Scalar.Overlong]
  | float x => simp [Value.css?, Scalar.Overlong]
  | int n => simp [Value.css?, Value.render?, Atom.render?, Scalar.render?, intText?, Scalar.Overlong]

theorem mapM_eq_some_iff {α β : Type} {f : α → Option β} {as : List α} {bs : List β} :
    as.mapM f = some bs ↔ List.Forall₂ (fun a b => f a = some b) as bs := by
  induction as generalizing bs with
  | nil => simp [eq_comm]
  | cons a as ih =>
    simp only [List.mapM_cons, List.forall₂_cons_left_iff, ← ih]
    cases hf : f a with
    | none => simp
    | some b => cases hm : as.mapM f <;> simp [eq_comm]

theorem exists_mapM_iff {α β : Type} {f : α → Option β} {as : List α} :
    (∃ bs, as.mapM f = some bs) ↔ ∀ a ∈ as, f a ≠ none := by
  induction as with
  | nil => simp
  | cons a as ih =>
    rw [List.forall_mem_cons, ← ih]
    cases hf : f a with
    | none => simp [List.mapM_cons, hf]
    | some b => cases hm : as.mapM f <;> simp [List.mapM_cons, hf, hm]

namespace FlatMap

/-- The declarations are those of the entries, in order, each with the text of its value. -/
def WrittenAs (flat : FlatMap) (ds : Declarations) : Prop :=
  List.Forall₂ (fun e d => d.1 = e.1 ∧ e.2.css = .ok d.2) flat ds

theorem css_eq_ok_iff (s : Scalar) (text : Text) :
    s.css = .ok text ↔ (Value.scalar s).css? = some text := by
  rw [Scalar.css]
  cases (Value.scalar s).css? <;> simp [written]

theorem declarations_eq_ok_iff (flat : FlatMap) (ds : Declarations) :
    flat.declarations = .ok ds ↔ flat.WrittenAs ds := by
  have mapped : flat.declarations = .ok ds ↔
      Declarations.ofValues? (flat.map fun e => (e.1, .scalar e.2)) = some ds := by
    rw [declarations]
    cases Declarations.ofValues? (flat.map fun e => (e.1, .scalar e.2)) <;> simp [written]
  rw [mapped, Declarations.ofValues?, mapM_eq_some_iff, List.forall₂_map_left_iff, WrittenAs]
  constructor
  · refine List.Forall₂.imp fun e d shown => ?_
    obtain ⟨text, css, rfl⟩ := Option.map_eq_some_iff.mp shown
    exact ⟨rfl, (css_eq_ok_iff e.2 text).mpr css⟩
  · refine List.Forall₂.imp fun e d ⟨path, css⟩ => ?_
    rw [(css_eq_ok_iff e.2 d.2).mp css, Option.map_some, ← path]

theorem exists_writtenAs_iff (flat : FlatMap) :
    (∃ ds, flat.WrittenAs ds) ↔ ∀ e ∈ flat, ¬ e.2.Overlong := by
  simp only [← declarations_eq_ok_iff]
  have mapped : (∃ ds, flat.declarations = .ok ds) ↔
      ∃ ds, Declarations.ofValues? (flat.map fun e => (e.1, .scalar e.2)) = some ds := by
    rw [declarations]
    cases Declarations.ofValues? (flat.map fun e => (e.1, .scalar e.2)) <;> simp [written]
  rw [mapped]
  simp only [Declarations.ofValues?, exists_mapM_iff, List.forall_mem_map, ne_eq,
    Option.map_eq_none_iff, css?_eq_none_iff]

theorem declarations_eq_error {flat : FlatMap} (overlong : ∃ e ∈ flat, e.2.Overlong) :
    flat.declarations = .error .overlong := by
  rw [declarations]
  cases hd : Declarations.ofValues? (flat.map fun e => (e.1, .scalar e.2)) with
  | none => rfl
  | some ds =>
    obtain ⟨e, he, long⟩ := overlong
    have all : flat.WrittenAs ds := by
      rw [← declarations_eq_ok_iff, declarations, hd]
      rfl
    exact absurd long ((exists_writtenAs_iff flat).mp ⟨ds, all⟩ e he)

theorem WrittenAs.paths {flat : FlatMap} {ds : Declarations} (as : flat.WrittenAs ds) :
    ds.map Prod.fst = flat.paths := by
  induction as with
  | nil => rfl
  | cons first _ ih => rw [List.map_cons, ih, first.1]; rfl

theorem WrittenAs.filter {flat : FlatMap} {ds : Declarations} (as : flat.WrittenAs ds)
    (keep : Text → Bool) :
    WrittenAs (flat.filter fun e => keep e.1) (ds.filter fun d => keep d.1) := by
  apply List.rel_filter _ as
  rintro e d ⟨path, -⟩
  dsimp only
  rw [path]

theorem WrittenAs.unique {flat : FlatMap} {ds ds' : Declarations} (as : flat.WrittenAs ds)
    (as' : flat.WrittenAs ds') : ds = ds' := by
  rw [← declarations_eq_ok_iff] at as as'
  exact Except.ok.inj (as.symm.trans as')

end FlatMap

namespace Sheet

/-- The text of lines, each with its end. -/
def ofLines (lines : List Text) : Text := Text.join (lines.map (· ++ "\n"))

/-- A section of the base style sheet: the flat tokens of a category, in the order of the flat map. -/
structure Bucket where
  title : String
  category : Category
  entries : Declarations
  deriving DecidableEq

def bucket (ds : Declarations) (title : String) (category : Category) : Bucket :=
  ⟨title, category, ds.filter fun d => Category.ofPath d.1 = category⟩

/-- The sections that are there: five always, and one more if it has entries. -/
def shown (ds : Declarations) : List Bucket :=
  let other := bucket ds "Other" .other
  [bucket ds "Colors" .colors, bucket ds "Typography" .typography, bucket ds "Spacing" .spacing,
    bucket ds "Borders & Shadows" .bordersShadows, bucket ds "Transitions" .transitions] ++
    if other.entries = [] then [] else [other]

def Bucket.lines (b : Bucket) : List Text :=
  ("  /* " ++ b.title ++ " */" : Text) ::
    (b.entries.map fun d => ("  " : Text) ++ declaration d.1 d.2) ++ [("" : Text)]

def opening : List Text :=
  ["/**", " * PRSMTECH Design Tokens - Base CSS Variables",
    " * Generated from design tokens - do not edit", " */", "", ":root \x7b"]

def closing : List Text :=
  ["\x7d", "", "/* Dark mode */", "[data-theme=\"dark\"],", ".dark,", ":root.dark \x7b",
    "  --prsm-slide-background: var(--prsm-dark-background);",
    "  --prsm-slide-backgroundAlt: var(--prsm-dark-backgroundAlt);",
    "  --prsm-slide-text: var(--prsm-dark-text);",
    "  --prsm-slide-textMuted: var(--prsm-dark-textMuted);",
    "  --prsm-slide-heading: var(--prsm-dark-heading);",
    "  --prsm-slide-link: var(--prsm-dark-link);",
    "  --prsm-slide-linkHover: var(--prsm-dark-linkHover);",
    "  --prsm-slide-border: var(--prsm-dark-border);",
    "  --prsm-slide-codeBg: var(--prsm-dark-codeBg);",
    "  --prsm-slide-codeText: var(--prsm-dark-codeText);", "\x7d"]

def baseLines (ds : Declarations) : List Text :=
  opening ++ (shown ds).flatMap Bucket.lines ++ closing

theorem ofLines_append (lines more : List Text) :
    ofLines (lines ++ more) = ofLines lines ++ ofLines more := by
  rw [ofLines, ofLines, ofLines, List.map_append, Text.join_append]

theorem ofLines_cons (line : Text) (lines : List Text) :
    ofLines (line :: lines) = line ++ "\n" ++ ofLines lines := by
  rw [ofLines, ofLines, List.map_cons, Text.join_cons]

theorem render_declare (d : Text × Text) :
    (fixed (variableName d.1) d.2).render = "  " ++ declaration d.1 d.2 ++ "\n" := by
  have ending : ((";\n" : String) : Text) = ";" ++ "\n" := rfl
  rw [fixed, Line.render, declaration, ending]
  simp only [Text.append_assoc]

theorem render_sectionLines (title : String) (ds : Declarations) (category : Category) :
    Text.join ((sectionLines title (ds.inCategory category)).map Line.render) =
      ofLines (bucket ds title category).lines := by
  have comment : (commentText title : Text) = "/* " ++ title ++ " */" ++ "\n" := by
    have ending : ((" */\n" : String) : Text) = " */" ++ "\n" := rfl
    rw [commentText, Text.ofString_append, Text.ofString_append, ending, ← Text.append_assoc]
  have entries : Text.join (((ds.inCategory category).map fun d =>
        fixed (variableName d.1) d.2).map Line.render) =
      ofLines ((ds.inCategory category).map fun d => "  " ++ declaration d.1 d.2) := by
    rw [ofLines, List.map_map, List.map_map]
    congr 1
    exact List.map_congr_left fun d _ => render_declare d
  have blank : Text.join ([Line.blank].map Line.render) = ofLines [""] := rfl
  rw [sectionLines, List.map_cons, Text.join_cons, List.map_append, Text.join_append, entries,
    blank, ← ofLines_append, Line.render, comment, ← Text.append_assoc, ← Text.append_assoc,
    ← ofLines_cons]
  rfl

/-- The sections read as the lines of those that are shown. -/
theorem render_sections (ds : Declarations) :
    Text.join ((sections ds).map Line.render) = ofLines ((shown ds).flatMap Bucket.lines) := by
  have last : Text.join ((if ds.inCategory .other = [] then []
        else sectionLines "Other" (ds.inCategory .other)).map Line.render) =
      ofLines ((if ds.inCategory .other = [] then []
        else [bucket ds "Other" .other]).flatMap Bucket.lines) := by
    by_cases none : ds.inCategory .other = []
    · rw [if_pos none, if_pos none]
      rfl
    · rw [if_neg none, if_neg none, render_sectionLines, List.flatMap_singleton]
  have all : sections ds = sectionLines "Colors" (ds.inCategory .colors) ++
      (sectionLines "Typography" (ds.inCategory .typography) ++
      (sectionLines "Spacing" (ds.inCategory .spacing) ++
      (sectionLines "Borders & Shadows" (ds.inCategory .bordersShadows) ++
      (sectionLines "Transitions" (ds.inCategory .transitions) ++
      if ds.inCategory .other = [] then [] else sectionLines "Other" (ds.inCategory .other))))) := by
    simp [sections, Category.all, Category.title]
  have other : (bucket ds "Other" .other).entries = ds.inCategory .other := rfl
  rw [all, shown, other]
  simp only [List.map_append, Text.join_append, List.flatMap_append, List.flatMap_cons,
    List.flatMap_nil, List.append_nil, ofLines_append, render_sectionLines, last,
    Text.append_assoc]

theorem render_base (ds : Declarations) : (base ds).render = ofLines (baseLines ds) := by
  have top : bannerText ["PRSMTECH Design Tokens - Base CSS Variables",
      "Generated from design tokens - do not edit"] ++ ("\n" ++ ":root \x7b\n") =
        ofLines opening := by
    decide +kernel
  have bottom : "\x7d\n" ++ ("\n" ++ darkMode.render) = ofLines closing := by
    decide +kernel
  have root : (rule [":root"] (sections ds)).render =
      ":root \x7b\n" ++ Text.join ((sections ds).map Line.render) ++ "\x7d\n" := by
    rw [rule, Paragraph.render]
    rfl
  rw [Sheet.render, base, List.map_cons, List.map_cons, List.map_cons, List.map_nil,
    Text.intercalate_cons_cons, Text.intercalate_cons_cons, Text.intercalate_singleton, root,
    render_sections, baseLines, ofLines_append, ofLines_append, ← top, ← bottom, Paragraph.render]
  simp only [Text.append_assoc]

theorem mem_shown {ds : Declarations} {b : Bucket} (hb : b ∈ shown ds) :
    b = bucket ds b.category.title b.category := by
  rw [shown, List.mem_append] at hb
  rcases hb with hb | hb
  · simp only [List.mem_cons, List.not_mem_nil, or_false] at hb
    rcases hb with rfl | rfl | rfl | rfl | rfl <;> rfl
  · split at hb
    · cases hb
    · rw [List.mem_singleton.mp hb]
      rfl

theorem entries_shown (ds : Declarations) :
    (shown ds).flatMap Bucket.entries =
      Category.all.flatMap fun c => ds.filter fun d => Category.ofPath d.1 = c := by
  have other : (bucket ds "Other" .other).entries =
      ds.filter fun d => Category.ofPath d.1 = .other := rfl
  rw [shown, other]
  by_cases none : (ds.filter fun d => Category.ofPath d.1 = .other) = []
  · rw [if_pos none]
    simp [none, Category.all, bucket]
  · rw [if_neg none]
    simp [Category.all, bucket]

/-- No declaration is lost and none is added. -/
theorem entries_perm (ds : Declarations) : ((shown ds).flatMap Bucket.entries).Perm ds := by
  rw [entries_shown, List.perm_iff_count]
  intro d
  have each (c : Category) : (ds.filter fun d' => Category.ofPath d'.1 = c).count d =
      if Category.ofPath d.1 = c then ds.count d else 0 := by
    by_cases hc : Category.ofPath d.1 = c
    · rw [if_pos hc, List.count_filter (by simp [hc])]
    · rw [if_neg hc, List.count_eq_zero]
      intro hd
      exact hc (of_decide_eq_true (List.mem_filter.mp hd).2)
  simp only [Category.all, List.flatMap_cons, List.flatMap_nil, List.count_append, each]
  cases Category.ofPath d.1 <;> simp

theorem category_of_mem {ds : Declarations} {b : Bucket} (hb : b ∈ shown ds)
    {d : Text × Text} (hd : d ∈ b.entries) : Category.ofPath d.1 = b.category := by
  rw [mem_shown hb] at hd
  exact of_decide_eq_true (List.mem_filter.mp hd).2

theorem existsUnique_shown {ds : Declarations} {d : Text × Text} (hd : d ∈ ds) :
    ∃! b, b ∈ shown ds ∧ d ∈ b.entries := by
  obtain ⟨b, hb, here⟩ := List.mem_flatMap.mp ((entries_perm ds).mem_iff.mpr hd)
  refine ⟨b, ⟨hb, here⟩, ?_⟩
  rintro b' ⟨hb', here'⟩
  have same : b'.category = b.category :=
    (category_of_mem hb' here').symm.trans (category_of_mem hb here)
  rw [mem_shown hb', mem_shown hb, same]

theorem variableName_injective {path path' : Text}
    (same : variableName path = variableName path') : path = path' := by
  have characters := congrArg Text.toList same
  rw [variableName, variableName, Text.toList_append, Text.toList_append] at characters
  exact Text.toList_inj.mp (List.append_cancel_left characters)

/-- The names that the sections declare, in order. -/
def declaredNames (ds : Declarations) : List Text :=
  ((shown ds).flatMap Bucket.entries).map fun d => variableName d.1

/-- What holds of the text of a flat map: the values have texts, and with these the sheet is given
line by line; each entry is declared in one section, that of its category, and once; and the names
that are declared are those of the variables. -/
structure Declares (doc : Document) (flat : FlatMap) (ds : Declarations) : Prop where
  values : flat.WrittenAs ds
  text : generateBase doc = .ok (ofLines (baseLines ds))
  all : ((shown ds).flatMap Bucket.entries).Perm ds
  one : ∀ d ∈ ds, ∃! b, b ∈ shown ds ∧ d ∈ b.entries
  category : ∀ b ∈ shown ds, ∀ d ∈ b.entries, Category.ofPath d.1 = b.category
  once : (declaredNames ds).Nodup
  names : ∃ vs, doc.variables = .ok vs ∧ (declaredNames ds).Perm (vs.map Prod.fst)

theorem variables_of_flatten {doc : Document} {flat : FlatMap} (flattened : doc.flatten = .ok flat) :
    doc.variables = .ok (flat.map fun e => (variableName e.1, e.2)) := by
  rw [Document.variables, flattened]
  rfl

theorem nodup_paths_of_flatten {doc : Document} {flat : FlatMap}
    (flattened : doc.flatten = .ok flat) : flat.paths.Nodup := by
  rw [paths_of_flattenUnder flattened]
  exact nodup_eraseDups _

theorem generateBase_of_flatten {doc : Document} {flat : FlatMap}
    (flattened : doc.flatten = .ok flat) :
    generateBase doc = flat.declarations.map fun ds => ofLines (baseLines ds) := by
  have step : generateBase doc = flat.declarations.map fun ds => (base ds).render := by
    rw [generateBase, flattened]
    rfl
  simp only [step, render_base]

/-- The base style sheets of a document are those of declarations that its flat map is written as. -/
theorem generateBase_eq_ok_iff {doc : Document} {flat : FlatMap}
    (flattened : doc.flatten = .ok flat) (text : Text) :
    generateBase doc = .ok text ↔ ∃ ds, flat.WrittenAs ds ∧ text = (base ds).render := by
  rw [generateBase_of_flatten flattened]
  simp only [← FlatMap.declarations_eq_ok_iff, render_base]
  cases flat.declarations with
  | ok ds => simp [Except.map, eq_comm]
  | error fault => simp [Except.map]

theorem generateBase_of_declarations {doc : Document} {flat : FlatMap}
    (flattened : doc.flatten = .ok flat) {ds : Declarations}
    (written : flat.declarations = .ok ds) : generateBase doc = .ok (base ds).render := by
  rw [generateBase_eq_ok_iff flattened]
  exact ⟨ds, (flat.declarations_eq_ok_iff ds).mp written, rfl⟩

theorem declares_of_flatten {doc : Document} {flat : FlatMap} (flattened : doc.flatten = .ok flat)
    {ds : Declarations} (values : flat.WrittenAs ds) : Declares doc flat ds := by
  have names : (declaredNames ds).Perm (flat.paths.map variableName) := by
    have paths : flat.paths.map variableName = ds.map fun d => variableName d.1 := by
      rw [← values.paths, List.map_map]
      rfl
    rw [paths]
    exact (entries_perm ds).map _
  have named : (flat.map fun e => (variableName e.1, e.2)).map Prod.fst =
      flat.paths.map variableName := by
    rw [FlatMap.paths, List.map_map, List.map_map]
    rfl
  refine ⟨values, ?_, entries_perm ds, fun d hd => existsUnique_shown hd,
    fun b hb d hd => category_of_mem hb hd, ?_, _, variables_of_flatten flattened, named ▸ names⟩
  · rw [generateBase_of_flatten flattened, (flat.declarations_eq_ok_iff ds).mpr values]
    rfl
  · exact names.nodup_iff.mpr
      ((nodup_paths_of_flatten flattened).map fun _ _ => variableName_injective)

end Sheet

open Sheet in
/-- For every document with a flat map the base style sheet declares just what is in it, unless a
number has too many digits, and then only the variables can be had. A document without a flat map has
neither, for the same reason. -/
theorem base_declares_flat (doc : Document) :
    (∀ flat, doc.flatten = .ok flat →
      ((∀ e ∈ flat, ¬ e.2.Overlong) → ∃ ds, Declares doc flat ds) ∧
      ((∃ e ∈ flat, e.2.Overlong) → generateBase doc = .error .overlong ∧
        doc.variables = .ok (flat.map fun e => (variableName e.1, e.2)))) ∧
    ∀ fault, doc.flatten = .error fault →
      generateBase doc = .error fault ∧ doc.variables = .error fault := by
  refine ⟨fun flat flattened => ⟨fun short => ?_, fun long => ?_⟩, fun fault failed => ?_⟩
  · obtain ⟨ds, values⟩ := flat.exists_writtenAs_iff.mpr short
    exact ⟨ds, declares_of_flatten flattened values⟩
  · rw [generateBase_of_flatten flattened, FlatMap.declarations_eq_error long]
    exact ⟨rfl, variables_of_flatten flattened⟩
  · rw [generateBase, Document.variables, failed]
    exact ⟨rfl, rfl⟩

/-- A wrapper, two tokens with one path, of which the later one counts, and tokens of the last and of
the first section. -/
def Document.assorted : Document :=
  [(.text "z", .text "auto"), (.text "gap", .map [(.text "value", .text "1rem")]),
    (.text "colors", .map [(.text "red", .text "#f00")]), (.text "colors-red", .text "#e00")]

def assortedFlat : FlatMap :=
  [("z", .text "auto"), ("gap", .text "1rem"), ("colors-red", .text "#e00")]

theorem base_declares_flat_assorted :
    Document.assorted.flatten = .ok assortedFlat ∧ (∀ e ∈ assortedFlat, ¬ e.2.Overlong) ∧
      ∃ ds, Sheet.Declares .assorted assortedFlat ds := by
  have flattened : Document.assorted.flatten = .ok assortedFlat := rfl
  have short : ∀ e ∈ assortedFlat, ¬ e.2.Overlong := by
    simp [assortedFlat, Scalar.Overlong]
  exact ⟨flattened, short, ((base_declares_flat .assorted).1 assortedFlat flattened).1 short⟩

/-- A number of too many digits as the value of a token. -/
def Document.overlongValue : Document :=
  [(.text "a", .int ((Nat.pow 10 maxDigits : Nat) : Int))]

/-- Flattening succeeds and still there is no base style sheet. -/
theorem overlongValue_has_no_sheet :
    (∃ flat, Document.overlongValue.flatten = .ok flat) ∧
      ∀ text, Sheet.generateBase .overlongValue ≠ .ok text := by
  have flattened : Document.overlongValue.flatten =
      .ok [("a", .int ((Nat.pow 10 maxDigits : Nat) : Int))] := rfl
  have long : (Scalar.int ((Nat.pow 10 maxDigits : Nat) : Int)).Overlong :=
    ⟨_, rfl, Nat.le_of_eq (Int.natAbs_natCast _).symm⟩
  refine ⟨⟨_, flattened⟩, fun text => ?_⟩
  rw [Sheet.generateBase_of_flatten flattened,
    FlatMap.declarations_eq_error ⟨_, List.mem_singleton_self _, long⟩]
  exact fun h => nomatch h

end DesignTokens
