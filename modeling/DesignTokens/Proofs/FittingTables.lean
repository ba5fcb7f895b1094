import DesignTokens.Console.Table
import DesignTokens.Proofs.FittingText
import Mathlib.Data.List.Forall2

/-!
# Tables that fit

A table that fits its page has one line for each row, and in it each cell has its text as it is, up
to blanks at its end. The columns are as wide as the widest of their texts, so no text is broken.
-/

namespace DesignTokens.Console

/-- Controls a terminal instead of being shown. -/
def isControl (c : Letter) : Bool := c.code < 0x20 || (0x7F ≤ c.code && c.code ≤ 0x9F)

/-- No character is a control character or ends a line. -/
def Printable (text : List Letter) : Prop :=
  ∀ c ∈ text, isControl c = false ∧ Text.isLineEnd c = false

instance (text : List Letter) : Decidable (Printable text) :=
  decidable_of_iff (text.all fun c => !isControl c && !Text.isLineEnd c) (by simp [Printable])

theorem Printable.notMem {text : List Letter} (printable : Printable text) {c : Letter}
    (control : isControl c = true) : c ∉ text := fun hc =>
  Bool.false_ne_true ((printable c hc).1.symm.trans control)

theorem wrap_of_printable {limit : Nat} {text : List Letter} (printable : Printable text)
    (fits : width text ≤ limit) : wrap limit text = [dropExcessBlanks limit text] :=
  wrap_of_fits (printable.notMem rfl) (printable.notMem rfl) fits

namespace Table

theorem natural_of_printable {text : List Letter} (printable : Printable text) :
    natural text = width text := by
  have same : (text.map fun c => if Text.isLineEnd c then .char '\n' else c) = text := by
    conv_rhs => rw [← List.map_id text]
    exact List.map_congr_left fun c hc => by simp [(printable c hc).2]
  rw [natural, same, Text.pieces_of_notMem (printable.notMem rfl)]
  exact Nat.max_eq_right (Nat.zero_le _)

/-- Each text of a row fits its column. -/
def Covers (ws : List Nat) (cells : List (List Letter)) : Prop :=
  List.Forall₂ (fun n cell => natural cell ≤ n) ws cells

/-- Wider columns still cover what they did, and also the texts that they were widened for. -/
theorem Covers.widen {ws : List Nat} {cells : List (List Letter)} (covers : Covers ws cells)
    {row : List (List Letter)} (aligned : row.length = ws.length) :
    Covers (List.zipWith max ws (row.map natural)) cells ∧
      Covers (List.zipWith max ws (row.map natural)) row := by
  induction covers generalizing row with
  | nil => simp_all [Covers]
  | @cons n cell ws cells fits _ ih =>
    cases row with
    | nil => simp at aligned
    | cons text row =>
      obtain ⟨old, new⟩ := ih (Nat.succ.inj aligned)
      exact ⟨.cons (fits.trans (Nat.le_max_left ..)) old, .cons (Nat.le_max_right ..) new⟩

/-- Columns that are widened row by row cover all of the rows in the end. -/
theorem covers_foldl {rows : List (List (List Letter))} {ws : List Nat} {cells : List (List Letter)}
    (covers : Covers ws cells) (aligned : ∀ row ∈ rows, row.length = ws.length) :
    ∀ row ∈ cells :: rows,
      Covers (rows.foldl (fun ws row => List.zipWith max ws (row.map natural)) ws) row := by
  induction rows generalizing ws cells with
  | nil => simpa using covers
  | cons first rows ih =>
    rw [List.forall_mem_cons] at aligned
    obtain ⟨old, new⟩ := covers.widen aligned.1
    have same : (List.zipWith max ws (first.map natural)).length = ws.length := by
      simp [aligned.1]
    have further : ∀ row ∈ rows, row.length = (List.zipWith max ws (first.map natural)).length :=
      fun row hr => (aligned.2 row hr).trans same.symm
    rw [List.foldl_cons, List.forall_mem_cons, List.forall_mem_cons]
    exact ⟨ih old further _ List.mem_cons_self, ih new further _ List.mem_cons_self,
      fun row hr => ih old further row (List.mem_cons_of_mem _ hr)⟩

variable {t : Table}

theorem covers_naturalWidths (aligned : ∀ row ∈ t.rows, row.length = t.header.length) :
    ∀ row ∈ t.header :: t.rows, Covers t.naturalWidths row := by
  refine covers_foldl ?_ (by simpa using aligned)
  rw [Covers, List.forall₂_map_left_iff, List.forall₂_same]
  exact fun _ _ => Nat.le_refl _

/-- On a page that is wide enough no column gives way. -/
theorem widths_eq_naturalWidths {limit : Nat}
    (narrow : frame t.naturalWidths.length + total t.naturalWidths ≤ limit) :
    t.widths limit = t.naturalWidths := by
  rw [widths]
  generalize t.naturalWidths = natural at narrow ⊢
  rcases List.eq_nil_or_concat natural with rfl | ⟨others, last, rfl⟩
  · rfl
  · rw [List.concat_eq_append] at narrow ⊢
    have whole : total (others ++ [last]) = total others + last := by simp [total]
    rw [List.getLast?_concat, List.dropLast_concat]
    dsimp only
    rw [Nat.min_eq_left (by omega)]

/-- A text between blanks, as it stands in a cell. -/
def ShownIn (text piece : List Letter) : Prop :=
  ∃ shown gap, SeenAs text shown ∧ piece = .char ' ' :: shown ++ List.replicate (gap + 1) (.char ' ')

/-- A line whose cells show these texts, with borders around them. -/
def Reads (border : Char) (texts : List (List Letter)) (line : List Letter) : Prop :=
  ∃ pieces, List.Forall₂ ShownIn texts pieces ∧ line = joined border border border pieces

theorem shownIn_cell {n : Nat} {text : List Letter} (fits : width text ≤ n) :
    ShownIn text (.char ' ' :: cellLine n (dropExcessBlanks n text) ++ [.char ' ']) := by
  have filled (line : List Letter) : ∃ gap, cellLine n line = line ++ List.replicate gap (.char ' ') :=
    ⟨_, by rw [cellLine, padded, padded, blanks, blanks, List.append_assoc,
      List.replicate_append_replicate]⟩
  obtain ⟨gap, hgap⟩ := filled (dropExcessBlanks n text)
  refine ⟨dropExcessBlanks n text, gap, seenAs_dropExcessBlanks fits, ?_⟩
  rw [hgap, List.replicate_succ', List.cons_append, List.cons_append, List.append_assoc]

/-- Each cell of a row is one line, in which its text is shown. -/
theorem shown_of_covers {ws : List Nat} {cells : List (List Letter)} (covers : Covers ws cells)
    (printable : ∀ cell ∈ cells, Printable cell) :
    (∀ n ∈ (List.zipWith wrap ws cells).map List.length, n = 1) ∧
      List.Forall₂ ShownIn cells (List.zipWith
        (fun n cs => .char ' ' :: cellLine n cs ++ [.char ' ']) ws
        ((List.zipWith wrap ws cells).map fun lines => lines.getD 0 [])) := by
  induction covers with
  | nil => exact ⟨by simp, .nil⟩
  | cons fits _ ih =>
    rw [List.forall_mem_cons] at printable
    rw [natural_of_printable printable.1] at fits
    obtain ⟨lengths, shown⟩ := ih printable.2
    rw [List.zipWith_cons_cons, wrap_of_printable printable.1 fits]
    exact ⟨List.forall_mem_cons.mpr ⟨rfl, lengths⟩, .cons (shownIn_cell fits) shown⟩

/-- A row whose texts fit their columns is one line that reads as they do. -/
theorem row_of_covers {ws : List Nat} {cells : List (List Letter)} (covers : Covers ws cells)
    (some_ : cells ≠ []) (printable : ∀ cell ∈ cells, Printable cell) (border : Char) :
    ∃ line, row border ws cells = [line] ∧ Reads border cells line := by
  obtain ⟨lengths, shown⟩ := shown_of_covers covers printable
  have one : ((List.zipWith wrap ws cells).map List.length).foldl max 0 = 1 := by
    have most (ns : List Nat) (ones : ∀ n ∈ ns, n = 1) : ns.foldl max 1 = 1 := by
      induction ns with
      | nil => rfl
      | cons n ns ih =>
        rw [List.forall_mem_cons] at ones
        rw [List.foldl_cons, ones.1]
        exact ih ones.2
    cases covers with
    | nil => exact absurd rfl some_
    | cons _ _ =>
      rw [List.zipWith_cons_cons, List.map_cons, List.forall_mem_cons] at lengths
      rw [List.zipWith_cons_cons, List.map_cons, List.foldl_cons, lengths.1]
      exact most _ lengths.2
  exact ⟨_, by rw [row, one]; rfl, _, shown, rfl⟩

/-- A table of printable texts, each row as long as the header, that is no wider than the page. -/
structure Fits (limit : Nat) (t : Table) : Prop where
  headed : t.header ≠ []
  aligned : ∀ row ∈ t.rows, row.length = t.header.length
  printable : ∀ row ∈ t.header :: t.rows, ∀ cell ∈ row, Printable cell
  narrow : frame t.header.length + total t.naturalWidths ≤ limit

/-- The title above the strokes of a table, with these lines for the header and the rows. -/
def framed (box : Box) (t : Table) (head : List Letter) (body : List (List Letter)) :
    List (List Letter) :=
  let ws := t.naturalWidths
  [centred (fullWidth ws) t.title, stroke box.top ws, head, stroke box.belowHeader ws] ++ body ++
    [stroke box.bottom ws]

/-- A table that fits has one line for its header and one for each of its rows. -/
theorem lines_of_fits {limit : Nat} (fits : t.Fits limit) (box : Box) :
    ∃ head body, t.lines box limit = t.framed box head body ∧ Reads box.header t.header head ∧
      List.Forall₂ (Reads box.body) t.rows body := by
  have covers := covers_naturalWidths fits.aligned
  have columns : t.naturalWidths.length = t.header.length :=
    (covers _ List.mem_cons_self).length_eq
  have widths : t.widths limit = t.naturalWidths :=
    widths_eq_naturalWidths (columns ▸ fits.narrow)
  have one (border : Char) (row) (hr : row ∈ t.header :: t.rows) :
      ∃ line, Table.row border t.naturalWidths row = [line] ∧ Reads border row line := by
    refine row_of_covers (covers row hr) (fun none => ?_) (fits.printable row hr) border
    subst none
    rcases List.mem_cons.mp hr with same | other
    · exact fits.headed same.symm
    · exact fits.headed (List.length_eq_zero_iff.mp (fits.aligned _ other).symm)
  have all (rows : List (List (List Letter))) (sub : ∀ row ∈ rows, row ∈ t.header :: t.rows) :
      List.Forall₂ (Reads box.body) rows (rows.flatMap (Table.row box.body t.naturalWidths)) := by
    induction rows with
    | nil => exact .nil
    | cons row rows ih =>
      rw [List.forall_mem_cons] at sub
      obtain ⟨line, hline, reads⟩ := one box.body row sub.1
      rw [List.flatMap_cons, hline]
      exact .cons reads (ih sub.2)
  obtain ⟨head, hhead, reads⟩ := one box.header t.header List.mem_cons_self
  refine ⟨head, _, ?_, reads, all t.rows fun row hr => List.mem_cons_of_mem _ hr⟩
  rw [lines, widths, hhead]
  rfl

end Table

end DesignTokens.Console
