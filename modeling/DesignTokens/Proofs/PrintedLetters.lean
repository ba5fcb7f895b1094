import DesignTokens.Proofs.Markup
import DesignTokens.Proofs.Pieces
import DesignTokens.Proofs.TextEncoding
import DesignTokens.Summary

/-!
# The letters of a page

What the console prints has no letters but those of the texts, and characters of its own: the lines
of a table, blanks and emoji. So a page of texts that are made of characters is made of characters
too, wherever its lines are broken.
-/

namespace DesignTokens.Console

open Text (Whole)

/-- Lines without surrogates. -/
def WholeLines (lines : List (List Letter)) : Prop := ∀ line ∈ lines, Whole line

@[simp] theorem WholeLines.append_iff {lines more : List (List Letter)} :
    WholeLines (lines ++ more) ↔ WholeLines lines ∧ WholeLines more :=
  List.forall_mem_append

@[simp] theorem WholeLines.cons_iff {line : List Letter} {lines : List (List Letter)} :
    WholeLines (line :: lines) ↔ Whole line ∧ WholeLines lines :=
  List.forall_mem_cons

@[simp] theorem WholeLines.nil : WholeLines [] := fun _ none => nomatch none

section Markup

theorem whole_unescape {cs : List Letter} (whole : Whole cs) : Whole (unescape cs) := by
  induction cs using unescape.induct with
  | case1 => exact Whole.nil
  | case2 rest ih =>
    simp only [Whole.cons_iff] at whole
    exact Whole.cons_iff.mpr ⟨rfl, ih whole.2.2⟩
  | case3 c rest other ih =>
    obtain ⟨first, whole⟩ := Whole.cons_iff.mp whole
    rw [unescape.eq_3 c rest other]
    exact Whole.cons_iff.mpr ⟨first, ih whole⟩

theorem whole_emojiCode {inside : List Letter} (whole : Whole inside) :
    Whole (emojiCode inside) := by
  have selector : Whole (presentation inside).2 := by
    rw [presentation]
    split <;> simp
  rw [emojiCode]
  dsimp only
  split
  · rename_i e found
    obtain ⟨key, -, found⟩ := Option.bind_eq_some_iff.mp found
    obtain ⟨emoji, -, same⟩ := Option.bind_eq_some_iff.mp found
    cases same
    simpa using selector
  · simpa using whole

theorem whole_withEmoji {fuel : Nat} {cs : List Letter} (whole : Whole cs) :
    Whole (withEmoji fuel cs) := by
  fun_induction withEmoji fuel cs with
  | case1 cs => exact whole
  | case2 => exact whole
  | case3 fuel rest inside more behind ih =>
    obtain ⟨-, whole⟩ := Whole.cons_iff.mp whole
    have later : Whole (.char ':' :: more) := behind ▸ whole.subset (List.drop_subset ..)
    have code : Whole (emojiCode inside) :=
      whole_emojiCode (whole.subset (List.takeWhile_sublist _).subset)
    exact Whole.append_iff.mpr ⟨code, ih (Whole.cons_iff.mp later).2⟩
  | case4 fuel rest inside _ ih =>
    obtain ⟨first, whole⟩ := Whole.cons_iff.mp whole
    exact Whole.cons_iff.mpr ⟨first, ih whole⟩
  | case5 fuel c rest _ ih =>
    obtain ⟨first, whole⟩ := Whole.cons_iff.mp whole
    exact Whole.cons_iff.mpr ⟨first, ih whole⟩

def Stretch.Whole : Stretch → Prop
  | .text cs => Text.Whole cs
  | .tag .. => True

theorem whole_flush {text : List Letter} (whole : Whole text) :
    ∀ x ∈ stretches.flush text, x.Whole := by
  unfold stretches.flush
  split
  · simp
  · rw [List.forall_mem_singleton]
    exact whole.subset (List.reverse_subset.mpr (List.Subset.refl _))

theorem whole_stretches {fuel : Nat} {cs text : List Letter} {index : Nat} (whole : Whole cs)
    (before : Whole text) : ∀ x ∈ stretches fuel cs text index, x.Whole := by
  induction fuel generalizing cs text index with
  | zero => exact whole_flush before
  | succ fuel ih =>
    unfold stretches
    cases ahead : tagAhead? cs with
    | some found =>
      obtain ⟨slashes, inside, rest⟩ := found
      obtain ⟨rfl, -⟩ := of_tagAhead? ahead
      simp only [Whole.append_iff, Whole.cons_iff] at whole
      have tag : ∀ x ∈ tagStretches slashes inside index, x.Whole := by
        unfold tagStretches
        simp only [List.forall_mem_append, List.forall_mem_singleton]
        constructor
        · split
          · simp
          · simp [Stretch.Whole]
        · split
          · simp [Stretch.Whole, whole.2.2.1]
          · trivial
      simp only [List.forall_mem_append]
      exact ⟨⟨whole_flush before, tag⟩, ih whole.2.2.2.2 Whole.nil⟩
    | none =>
      cases cs with
      | nil => exact whole_flush before
      | cons c cs =>
        obtain ⟨first, whole⟩ := Whole.cons_iff.mp whole
        exact ih whole (Whole.cons_iff.mpr ⟨first, before⟩)

theorem whole_shown {terminal : Terminal} {parts : List Stretch} {opened : List OpenTag}
    {cs : List Letter} (whole : ∀ x ∈ parts, x.Whole)
    (shows : shown terminal parts opened = .ok cs) : Whole cs := by
  induction parts generalizing opened cs with
  | nil =>
    cases shows
    exact Whole.nil
  | cons x parts ih =>
    obtain ⟨first, others⟩ := List.forall_mem_cons.mp whole
    cases x with
    | text text =>
      rw [shown] at shows
      cases rest : shown terminal parts opened with
      | error e =>
        rw [rest] at shows
        cases shows
      | ok more =>
        rw [rest] at shows
        cases shows
        exact Whole.append_iff.mpr ⟨whole_withEmoji (whole_unescape first), ih others rest⟩
    | tag inside index =>
      rw [shown] at shows
      cases applied : applyTag terminal opened inside index with
      | error e =>
        rw [applied] at shows
        cases shows
      | ok opened' =>
        rw [applied] at shows
        exact ih others shows

/-- Markup that is made of characters shows characters. -/
theorem whole_render {terminal : Terminal} {markup cs : List Letter} (whole : Whole markup)
    (shows : render terminal markup = .ok cs) : Whole cs := by
  rw [render] at shows
  cases made : shown terminal (stretches (markup.length + 1) markup [] 0) [] with
  | error e =>
    rw [made] at shows
    cases shows
  | ok all =>
    rw [made] at shows
    cases shows
    have shown_ := whole_shown (whole_stretches whole Whole.nil) made
    exact shown_.subset (List.filter_sublist.subset)

end Markup

section Wrap

theorem wholeLines_pieces (separator : Letter) {cs : List Letter} (whole : Whole cs) :
    WholeLines (Text.pieces separator cs) :=
  fun _ made => whole.subset (Text.subset_of_mem_pieces made)

theorem whole_filledStretches {parts : List (List Letter)} (whole : WholeLines parts)
    (column : Nat) : Whole (filledStretches parts column) := by
  fun_induction filledStretches parts column with
  | case1 => exact Whole.nil
  | case2 stretch _ => exact (WholeLines.cons_iff.mp whole).1
  | case3 stretch rest _ _ _ _ _ ih =>
    obtain ⟨first, others⟩ := WholeLines.cons_iff.mp whole
    have filled : Whole (stretch ++ [.char ' ']) := by simpa using first
    exact Whole.append_iff.mpr
      ⟨Whole.append_iff.mpr ⟨filled, Whole.replicate_char _ _⟩, ih others⟩

theorem wholeLines_words (fuel : Nat) {cs : List Letter} (whole : Whole cs) :
    WholeLines (words fuel cs).1 ∧ Whole (words fuel cs).2 := by
  induction fuel generalizing cs with
  | zero => exact ⟨WholeLines.nil, whole⟩
  | succ fuel ih =>
    rw [words]
    dsimp only
    split
    · exact ⟨WholeLines.nil, whole⟩
    · have part (p : Letter → Bool) {ds : List Letter} (whole : Whole ds) : Whole (ds.takeWhile p) :=
        whole.subset (List.takeWhile_sublist p).subset
      have rest (n : Nat) {ds : List Letter} (whole : Whole ds) : Whole (ds.drop n) :=
        whole.subset (List.drop_subset n ds)
      obtain ⟨more, left⟩ := ih (rest _ (rest _ whole))
      refine ⟨?_, left⟩
      simp only [WholeLines.cons_iff, Whole.append_iff]
      exact ⟨⟨⟨part _ whole, part _ (rest _ whole)⟩, part _ (rest _ whole)⟩, more⟩

/-- The letters of clusters. -/
def WholeClusters (xs : List Cluster) : Prop := ∀ x ∈ xs, Whole x.letters

theorem wholeClusters_clustersFrom {joined : Bool} {last : Option Letter} {x : Cluster}
    {cs : List Letter} (first : Whole x.letters) (whole : Whole cs) :
    WholeClusters (clustersFrom joined last x cs) := by
  fun_induction clustersFrom joined last x cs <;>
    simp_all [WholeClusters, Cluster.push]

theorem wholeClusters_clusters {cs : List Letter} (whole : Whole cs) :
    WholeClusters (clusters cs) := by
  cases cs with
  | nil => exact fun _ none => nomatch none
  | cons c rest =>
    obtain ⟨first, whole⟩ := Whole.cons_iff.mp whole
    exact wholeClusters_clustersFrom (by simpa using first) whole

theorem wholeLines_chop {limit : Nat} {xs : List Cluster} (whole : WholeClusters xs)
    {piece : List Letter} (before : Whole piece) (used : Nat) :
    WholeLines (chop limit xs piece used) := by
  induction xs generalizing piece used with
  | nil => simpa [chop] using before
  | cons x xs ih =>
    obtain ⟨first, others⟩ := List.forall_mem_cons.mp whole
    rw [chop]
    split
    · exact WholeLines.cons_iff.mpr ⟨before, ih others first _⟩
    · exact ih others (Whole.append_iff.mpr ⟨before, first⟩) _

namespace Filling

def Whole (f : Filling) : Prop := WholeLines f.done ∧ Text.Whole f.line

theorem Whole.break_ {f : Filling} (whole : f.Whole) : f.break_.Whole := by
  obtain ⟨done, line⟩ := whole
  rw [Filling.break_]
  split <;> simp [Whole, done, line]

theorem Whole.put {f : Filling} (whole : f.Whole) {cs : List Letter} (text : Text.Whole cs)
    (used : Nat) : (f.put cs used).Whole :=
  ⟨whole.1, Text.Whole.append_iff.mpr ⟨whole.2, text⟩⟩

theorem Whole.add {f : Filling} (whole : f.Whole) {word : List Letter} (text : Text.Whole word)
    (limit : Nat) : (f.add limit word).Whole := by
  have cut : WholeLines (chop limit (clusters word) [] 0) :=
    wholeLines_chop (wholeClusters_clusters text) Text.Whole.nil 0
  rw [Filling.add]
  split
  · exact whole.put text _
  split
  · exact List.foldlRecOn _ _ whole fun f whole piece made => whole.break_.put (cut piece made) _
  split
  · exact whole.break_.put text _
  · exact whole.put text _

end Filling

theorem whole_cropClusters {limit : Nat} {xs : List Cluster} (whole : WholeClusters xs) :
    Whole (cropClusters limit xs) := by
  fun_induction cropClusters limit xs <;> simp_all [WholeClusters]

theorem wholeLines_wrapLine (limit : Nat) {line : List Letter} (whole : Whole line) :
    WholeLines (wrapLine limit line) := by
  have expanded := whole_filledStretches (wholeLines_pieces (.char '\t') whole) 0
  obtain ⟨ws, left⟩ := wholeLines_words ((expandTabs line).length + 1) expanded
  have filled : ((words ((expandTabs line).length + 1) (expandTabs line)).1.foldl
      (Filling.add limit) Filling.start).Whole :=
    List.foldlRecOn _ _ ⟨WholeLines.nil, Whole.nil⟩ fun f whole word made =>
      whole.add (ws word made) limit
  obtain ⟨done, last⟩ := filled.put left 0
  have lines := WholeLines.append_iff.mpr ⟨done, WholeLines.cons_iff.mpr ⟨last, WholeLines.nil⟩⟩
  rw [wrapLine, WholeLines, List.forall_mem_map]
  intro l made
  have text : Whole (dropExcessBlanks limit l) := (lines l made).subset (List.take_subset ..)
  rw [crop]
  split
  · exact text
  · exact whole_cropClusters (wholeClusters_clusters text)

theorem wholeLines_wrap (limit : Nat) {text : List Letter} (whole : Whole text) :
    WholeLines (wrap limit text) := by
  intro line made
  obtain ⟨part, known, made⟩ := List.mem_flatMap.mp made
  exact wholeLines_wrapLine limit (wholeLines_pieces _ whole part known) line made

end Wrap

namespace Table

@[simp] theorem whole_padded {limit : Nat} {line : List Letter} :
    Whole (padded limit line) ↔ Whole line := by
  simp [padded, blanks]

theorem whole_joined {left crossing right : Letter} {pieces : List (List Letter)}
    (ends : Whole [left, crossing, right]) (whole : WholeLines pieces) :
    Whole (joined left crossing right pieces) := by
  simp only [Whole.cons_iff] at ends
  have inside : Whole ([crossing].intercalate pieces) := by
    intro l hl
    rcases Text.mem_intercalate hl with between | ⟨piece, known, hl⟩
    · exact List.mem_singleton.mp between ▸ ends.2.1
    · exact whole piece known l hl
  simp [joined, ends, inside]

theorem whole_stroke (s : Stroke) (widths : List Nat) : Whole (stroke s widths) :=
  whole_joined (by simp) (by simp [WholeLines])

theorem forall_mem_zipWith {α β γ : Type} {f : α → β → γ} {P : β → Prop} {Q : γ → Prop}
    (step : ∀ a b, P b → Q (f a b)) {as : List α} {bs : List β} (all : ∀ b ∈ bs, P b) :
    ∀ c ∈ List.zipWith f as bs, Q c := by
  induction as generalizing bs with
  | nil => simp
  | cons a as ih =>
    cases bs with
    | nil => simp
    | cons b bs =>
      obtain ⟨first, others⟩ := List.forall_mem_cons.mp all
      rw [List.zipWith_cons_cons, List.forall_mem_cons]
      exact ⟨step a b first, ih others⟩

theorem wholeLines_row (border : Char) (widths : List Nat) {cells : List (List Letter)}
    (whole : WholeLines cells) : WholeLines (row border widths cells) := by
  have wrapped : ∀ lines ∈ List.zipWith wrap widths cells, WholeLines lines :=
    forall_mem_zipWith (fun limit _ => wholeLines_wrap limit) whole
  rw [row, WholeLines, List.forall_mem_map]
  intro i _
  have line : WholeLines ((List.zipWith wrap widths cells).map fun lines => lines.getD i []) := by
    rw [WholeLines, List.forall_mem_map]
    intro lines made
    rw [List.getD_eq_getElem?_getD]
    cases found : lines[i]? with
    | none => exact Whole.nil
    | some line => exact wrapped lines made line (List.mem_of_getElem? found)
  refine whole_joined (by simp) (forall_mem_zipWith (fun n text whole => ?_) line)
  simpa [cellLine] using whole

/-- The lines of a table of texts without surrogates. -/
theorem wholeLines_lines {t : Table} (title : Whole t.title) (header : WholeLines t.header)
    (rows : ∀ row ∈ t.rows, WholeLines row) (box : Box) (limit : Nat) :
    WholeLines (t.lines box limit) := by
  have body : WholeLines (t.rows.flatMap (row box.body (t.widths limit))) := by
    intro line made
    obtain ⟨cells, known, made⟩ := List.mem_flatMap.mp made
    exact wholeLines_row _ _ (rows cells known) line made
  simp [lines, centred, blanks, title, whole_stroke, wholeLines_row _ _ header, body]

end Table

theorem whole_ended {lines : List (List Letter)} (whole : WholeLines lines) :
    Whole (ended lines).toList := by
  intro l hl
  obtain ⟨line, known, hl⟩ := List.mem_flatMap.mp hl
  rcases List.mem_append.mp hl with inside | last
  · exact whole line known l inside
  · exact List.mem_singleton.mp last ▸ rfl

/-- The encoding of the output has octets for every character. -/
def Terminal.EncodesCharacters (terminal : Terminal) : Prop :=
  ∀ cs : List Char, terminal.encodingFault? (.ofChars cs) = none

theorem encodesCharacters_ofWidth (width : Nat) : (Terminal.ofWidth width).EncodesCharacters := by
  intro cs
  simp [Terminal.ofWidth, unencoded?]

theorem encodesCharacters_usual : Terminal.usual.EncodesCharacters := encodesCharacters_ofWidth 80

theorem Terminal.EncodesCharacters.of_whole {terminal : Terminal}
    (encodes : terminal.EncodesCharacters) {t : Text} (whole : Whole t.toList) :
    terminal.encodingFault? t = none := by
  obtain ⟨cs, letters⟩ := whole.exists_chars
  obtain rfl : t = .ofChars cs := Text.ext letters
  exact encodes cs

end DesignTokens.Console
