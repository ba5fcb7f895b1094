import DesignTokens.Proofs.LastGood
import DesignTokens.Proofs.SharedStores

/-!
# Trees that stand

In a tree that stands everything is in a directory, and paths start at directories. Storing files and
making directories keeps a tree standing, and so does a build, which does nothing else to files.
-/

namespace DesignTokens

namespace FileTree

/-- A tree in order whose paths start at directories. -/
structure Standing (t : FileTree) : Prop extends t.Orderly where
  anchored : ∀ anchor, t.shape (t.anchorPlace anchor) = some none

theorem node?_ne_none_iff (t : FileTree) (place : Place) :
    t.node? place ≠ none ↔ t.shape place ≠ none := by
  rw [shape, ne_eq, ne_eq, Option.map_eq_none_iff]

theorem standing_of_shapes {t : FileTree} (root : t.shape [] = some none)
    (held : ∀ place name, t.shape (place ++ [name]) ≠ none →
      t.shape place = some none ∧ name.utf8ByteSize ≤ maxName)
    (anchored : ∀ anchor, t.shape (t.anchorPlace anchor) = some none) : t.Standing := by
  refine { root, anchored, held := ?_, short := ?_, start := ?_ }
  · intro place name there
    exact (held place name ((t.node?_ne_none_iff _).mp there)).1
  · intro place name there
    exact (held place name ((t.node?_ne_none_iff _).mp there)).2
  · intro anchor octets file
    rw [anchored anchor] at file
    cases file

variable {t t' : FileTree}

/-- Where a path leads to no directory, it ends in a name in a directory. -/
theorem Standing.holder (standing : t.Standing) {path : Path} {place : Place}
    (located : t.locate path = .ok place) (free : t.shape place ≠ some none) :
    ∃ above name, place = above ++ [name] ∧ t.shape above = some none ∧
      name.utf8ByteSize ≤ maxName := by
  have walked := walk_of_locate located
  rcases List.eq_nil_or_concat path.parts with none | ⟨names, name, parts⟩
  · rw [none] at walked
    have start : t.anchorPlace path.anchor = place := Except.ok.inj walked
    exact absurd (start ▸ standing.anchored path.anchor) free
  · rw [parts, List.concat_eq_append] at walked
    obtain ⟨above, reached, directory, here⟩ := walk_concat walked
    by_cases up : name = ".."
    · rw [step, if_pos up] at here
      exact absurd (here ▸ standing.toOrderly.dropLast directory) free
    · rw [step, if_neg up] at here
      refine ⟨above, name, here, directory, ?_⟩
      obtain ⟨time, hn⟩ := directory_of_shape directory
      rw [walk_append reached, walk, hn] at walked
      by_contra long
      rw [if_pos (Nat.lt_of_not_le long)] at walked
      cases walked

/-- A tree goes on standing when something is new, or replaced, in a directory. -/
theorem Standing.grow (standing : t.Standing) (anchors : SameAnchors t t') {above : Place}
    {name : String} (directory : t.shape above = some none) (short : name.utf8ByteSize ≤ maxName)
    (free : t.shape (above ++ [name]) ≠ some none)
    (others : ∀ q, q ≠ above ++ [name] → t'.shape q = t.shape q) : t'.Standing := by
  have kept : ∀ q, t.shape q = some none → t'.shape q = some none := by
    intro q there
    rw [others q fun here => free (here ▸ there), there]
  refine standing_of_shapes (kept [] standing.root) ?_ ?_
  · intro place other there
    by_cases here : place ++ [other] = above ++ [name]
    · obtain ⟨rfl, rfl⟩ := List.append_singleton_inj.mp here
      exact ⟨kept _ directory, short⟩
    · rw [others _ here, ← node?_ne_none_iff] at there
      exact ⟨kept _ (standing.held place other there), standing.short place other there⟩
  · intro anchor
    rw [anchors.anchorPlace]
    exact kept _ (standing.anchored anchor)

theorem Standing.of_shape (standing : t.Standing) (anchors : SameAnchors t t')
    (shapes : ∀ q, t'.shape q = t.shape q) : t'.Standing := by
  refine standing_of_shapes ?_ (fun place name there => ?_) fun anchor => ?_
  · rw [shapes, standing.root]
  · rw [shapes, ← node?_ne_none_iff] at there
    rw [shapes]
    exact ⟨standing.held place name there, standing.short place name there⟩
  · rw [shapes, anchors.anchorPlace, standing.anchored]

theorem Standing.write (standing : t.Standing) (path : Path) (octets : List UInt8) :
    (t.write path octets).1.Standing := by
  rcases write_cases t path octets with ⟨place, located, free, -, anchors, shapes⟩ | ⟨e, refused⟩
  · obtain ⟨above, name, rfl, directory, short⟩ := standing.holder located free
    exact standing.grow anchors directory short free fun q elsewhere => by
      rw [shapes, if_neg elsewhere]
  · rw [refused]
    exact standing

theorem Standing.setModified (standing : t.Standing) (path : Path) (time : Time) :
    (t.setModified path time).1.Standing :=
  standing.of_shape (t.sameAnchors_setModified path time) (t.shape_setModified path time)

theorem Standing.makeDirectory (standing : t.Standing) (path : Path) :
    (t.makeDirectory path).1.Standing := by
  rcases makeDirectory_cases t path with ⟨place, located, absent, made⟩ | ⟨e, refused⟩
  · have free : t.shape place ≠ some none := by
      rw [shape, absent]
      simp
    obtain ⟨above, name, rfl, directory, short⟩ := standing.holder located free
    rw [made]
    exact standing.grow (sameAnchors_add t _ _) directory short free fun q elsewhere => by
      rw [shape_add, if_neg elsewhere]
  · rw [refused]
    exact standing

/-- A tree with nothing in it. -/
def bare : FileTree := ⟨[([], .directory 0)], [], [], 0⟩

theorem standing_bare : bare.Standing := by
  refine standing_of_shapes rfl (fun place name there => absurd ?_ there) ?_
  · simp [FileTree.shape, FileTree.node?, bare, lookup_cons_ite]
  · intro anchor
    cases anchor <;> rfl

/-- Nothing can be new below a file, so its time is not another either. -/
theorem Confined.node?_of_file {way stored : Place → Prop} (confined : Confined way stored t t')
    (standing : t'.Standing) {q : Place} {octets : List UInt8} {time : Time}
    (file : t.node? q = some (.file octets time)) (free : ¬ stored q) :
    t'.node? q = t.node? q := by
  have shape : t.shape q = some (some octets) := by
    rw [FileTree.shape, file]
    rfl
  cases confined.change q with
  | same same => exact same
  | made _ before _ =>
    rw [shape] at before
    cases before
  | stored here _ _ _ => exact absurd here free
  | stamped same below holder _ after =>
    rw [shape] at same
    rcases List.eq_nil_or_concat below with rfl | ⟨above, name, rfl⟩
    · rw [List.dropLast_nil] at holder
      rw [← holder, standing.root] at same
      cases same
    · rw [List.concat_eq_append] at holder after
      rw [List.dropLast_concat] at holder
      rw [← holder, standing.held above name ((t'.node?_ne_none_iff _).mpr after)] at same
      cases same

theorem view_of_same (anchors : SameAnchors t t') (keeps : Keeps t t') {path : Path} {n : Node}
    (shown : t.view path = some n) (same : t'.node? (t.resolve path) = t.node? (t.resolve path)) :
    t'.view path = some n := by
  obtain ⟨place, located, there⟩ := (t.view_eq_some_iff path n).mp shown
  obtain rfl := locate_ok located
  exact (t'.view_eq_some_iff path n).mpr
    ⟨_, locate_of_keeps anchors keeps located, same.trans there⟩

/-- A property of trees that neither storing a file nor making a directory spoils. -/
structure Lasting (P : FileTree → Prop) : Prop where
  write : ∀ t path octets, P t → P (FileTree.write t path octets).1
  make : ∀ t path, P t → P (t.makeDirectory path).1

theorem lasting_standing : Lasting Standing :=
  ⟨fun _ path octets standing => standing.write path octets,
    fun _ path standing => standing.makeDirectory path⟩

namespace Lasting

variable {P : FileTree → Prop} (lasting : Lasting P)

include lasting

theorem ensureDirectory {t : FileTree} (holds : P t) (path : Path) :
    P (t.ensureDirectory path).1 := by
  have made := lasting.make t path holds
  rw [FileTree.ensureDirectory]
  rcases makeDirectory_cases t path with ⟨place, -, -, hm⟩ | ⟨e, hm⟩
  · rw [hm] at made ⊢
    exact made
  · rw [hm]
    dsimp only
    split <;> exact holds

theorem ensureDirectoriesUpTo (fuel : Nat) {t : FileTree} (holds : P t) (path : Path) :
    P (t.ensureDirectoriesUpTo path fuel).1 := by
  induction fuel generalizing t path with
  | zero => exact lasting.ensureDirectory holds path
  | succ fuel ih =>
    rw [FileTree.ensureDirectoriesUpTo]
    have first := lasting.ensureDirectory holds path
    split
    · rename_i t₁ e he
      rw [he] at first
      split
      · have upward := ih first path.parent
        split
        · rename_i t₂ hu
          rw [hu] at upward
          exact lasting.ensureDirectory upward path
        · exact upward
      · exact first
    · exact first

theorem ensureDirectories {t : FileTree} (holds : P t) (path : Path) :
    P (t.ensureDirectories path).1 :=
  lasting.ensureDirectoriesUpTo _ holds path

theorem add (denied : Option ThemeError) {w : Writing} (holds : P w.files) (a : Artifact) :
    P (w.add denied a).files := by
  cases given : w.givenUp with
  | true =>
    rw [Writing.add_givenUp a given]
    exact holds
  | false =>
    cases success : a.success with
    | false =>
      rw [Writing.add_failed given success]
      exact holds
    | true =>
      cases denied with
      | some e =>
        rw [Writing.add_denied given success]
        exact holds
      | none =>
        have stored := lasting.write w.files (a.pathIn w.report.output) a.octets holds
        rcases hw : w.files.write (a.pathIn w.report.output) a.octets with ⟨files, refusal⟩
        rw [hw] at stored
        cases refusal with
        | none =>
          cases fault : a.fault? with
          | none =>
            rw [Writing.add_stored given success fault hw]
            exact stored
          | some f =>
            rw [Writing.add_emptied given success fault hw]
            exact stored
        | some e =>
          rw [Writing.add_refused given success hw]
          split
          · exact holds
          · exact stored

theorem foldl (denied : Option ThemeError) {w : Writing} (holds : P w.files)
    (c : List Artifact) : P (c.foldl (Writing.add denied) w).files := by
  induction c generalizing w with
  | nil => exact holds
  | cons a rest ih => exact ih (lasting.add denied holds a)

theorem writeArtifacts {t : FileTree} (holds : P t) (c : Compilation) (output : Path) :
    P (DesignTokens.writeArtifacts t c output).files := by
  rw [writeArtifacts_eq_foldl]
  refine lasting.foldl _ ?_ c
  rw [(writeArtifacts_nil t output).1]
  exact lasting.ensureDirectories holds output

theorem build {w : World} (holds : P w.files) (s : Settings) (store : Option Handle) :
    P (w.build s store).world.files := by
  cases w.produces_build s store with
  | written doc reads result files =>
    rw [files]
    exact lasting.writeArtifacts holds _ s.output
  | unread unread refused files =>
    rw [files]
    exact holds

end Lasting

end FileTree

end DesignTokens
