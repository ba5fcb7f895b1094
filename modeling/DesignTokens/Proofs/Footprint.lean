import DesignTokens.Proofs.FileTree

/-!
# What operations on files leave alone

An operation may make directories on a way and store files in their places. Every other place is as
it was, its modification time included, but for the directories in which something is new.
-/

namespace DesignTokens

namespace FileTree

variable {t t' t'' : FileTree} {way stored : Place → Prop}

/-- What has become of a place: nothing, a directory that was made on the way, a file that was stored,
or only its time is another because something right below it is new. -/
inductive Change (way stored : Place → Prop) (t t' : FileTree) (q : Place) : Prop
  | same (same : t'.node? q = t.node? q)
  | made (onWay : way q) (before : t.shape q = none) (after : t'.shape q = some none)
  | stored (here : stored q) (before : t.shape q ≠ some none) (octets : List UInt8)
    (after : t'.shape q = some (some octets))
  | stamped (same : t'.shape q = t.shape q) (below : Place) (holder : below.dropLast = q)
    (before : t.shape below = none) (after : t'.shape below ≠ none)

theorem shape_of_same {q : Place} (same : t'.node? q = t.node? q) : t'.shape q = t.shape q := by
  rw [shape, shape, same]

namespace Change

variable {q : Place}

theorem absent (change : Change way stored t t' q) (after : t'.shape q = none) :
    t.shape q = none := by
  cases change with
  | same same => rw [← shape_of_same same, after]
  | made _ before _ => exact before
  | stored _ _ octets after' => rw [after'] at after; cases after
  | stamped same => rw [← same, after]

theorem directory (change : Change way stored t t' q) (before : t.shape q = some none) :
    t'.shape q = some none := by
  cases change with
  | same same => rw [shape_of_same same, before]
  | made _ _ after => exact after
  | stored _ before' => exact absurd before before'
  | stamped same => rw [same, before]

theorem mono {way' stored' : Place → Prop} (change : Change way stored t t' q)
    (ways : ∀ q, way q → way' q) (places : ∀ q, stored q → stored' q) :
    Change way' stored' t t' q := by
  cases change with
  | same same => exact .same same
  | made onWay before after => exact .made (ways q onWay) before after
  | stored here before octets after => exact .stored (places q here) before octets after
  | stamped same below holder before after => exact .stamped same below holder before after

end Change

/-- Only directories on the way and files in the given places are new. -/
structure Confined (way stored : Place → Prop) (t t' : FileTree) : Prop where
  anchors : SameAnchors t t'
  change : ∀ q, Change way stored t t' q

theorem confined_refl (t : FileTree) : Confined way stored t t :=
  ⟨sameAnchors_refl t, fun _ => .same rfl⟩

theorem Confined.keeps (confined : Confined way stored t t') : Keeps t t' :=
  fun q => (confined.change q).directory

theorem Confined.mono {way' stored' : Place → Prop} (confined : Confined way stored t t')
    (ways : ∀ q, way q → way' q) (places : ∀ q, stored q → stored' q) :
    Confined way' stored' t t' :=
  ⟨confined.anchors, fun q => (confined.change q).mono ways places⟩

theorem Confined.trans (first : Confined way stored t t') (next : Confined way stored t' t'') :
    Confined way stored t t'' := by
  refine ⟨first.anchors.trans next.anchors, fun q => ?_⟩
  have appeared (below : Place) (after : t'.shape below ≠ none) : t''.shape below ≠ none :=
    fun h => after ((next.change below).absent h)
  cases next.change q with
  | same same =>
    have shapes := shape_of_same same
    cases first.change q with
    | same same' => exact .same (same.trans same')
    | made onWay before after => exact .made onWay before (shapes.trans after)
    | stored here before octets after => exact .stored here before octets (shapes.trans after)
    | stamped same' below holder before after =>
      exact .stamped (shapes.trans same') below holder before (appeared below after)
  | made onWay before after => exact .made onWay ((first.change q).absent before) after
  | stored here before octets after =>
    exact .stored here (fun h => before ((first.change q).directory h)) octets after
  | stamped same below holder before after =>
    have before' := (first.change below).absent before
    cases first.change q with
    | same same' => exact .stamped (same.trans (shape_of_same same')) below holder before' after
    | made onWay before'' after' => exact .made onWay before'' (same.trans after')
    | stored here before'' octets after' =>
      exact .stored here before'' octets (same.trans after')
    | stamped same' => exact .stamped (same.trans same') below holder before' after

/-- Where no file is stored, a directory is made or the shape stays. -/
theorem Confined.shape_cases (confined : Confined way stored t t') (q : Place)
    (free : ¬ stored q) :
    t'.shape q = t.shape q ∨ (t.shape q = none ∧ t'.shape q = some none ∧ way q) := by
  cases confined.change q with
  | same same => exact Or.inl (shape_of_same same)
  | made onWay before after => exact Or.inr ⟨before, after, onWay⟩
  | stored here => exact absurd here free
  | stamped same => exact Or.inl same

theorem node?_add_other {place q : Place} (n : Node) (elsewhere : q ≠ place)
    (notHolder : q ≠ place.dropLast) : (t.add place n).node? q = t.node? q := by
  have ticked : (t.add place n).node? q = ((t.touchParent place).put place n).node? q := rfl
  rw [ticked, node?_put, if_neg elsewhere, node?_touchParent t place q notHolder]

/-- What is added stands in its own place, and of other places only the holder has a new time. -/
theorem change_add {place : Place} (n : Node) (absent : t.node? place = none) {q : Place}
    (elsewhere : q ≠ place) : Change way stored t (t.add place n) q := by
  by_cases holder : q = place.dropLast
  · refine .stamped ?_ place holder.symm ?_ ?_
    · rw [shape_add, if_neg elsewhere]
    · rw [shape, absent]
      rfl
    · rw [shape_add, if_pos rfl]
      simp
  · exact .same (node?_add_other n elsewhere holder)

theorem confined_addDirectory {place : Place} (onWay : way place) (absent : t.node? place = none)
    (time : Time) : Confined way stored t (t.add place (.directory time)) := by
  refine ⟨sameAnchors_add t _ _, fun q => ?_⟩
  by_cases here : q = place
  · subst here
    refine .made onWay ?_ ?_
    · rw [shape, absent]
      rfl
    · rw [shape_add, if_pos rfl]
      rfl
  · exact change_add _ absent here

/-- Storing a file under a path touches its place and the time of the directory that holds it. -/
theorem confined_write {path : Path} (here : stored (t.resolve path)) (octets : List UInt8) :
    Confined way stored t (t.write path octets).1 := by
  refine ⟨t.sameAnchors_write path octets, fun q => ?_⟩
  rcases write_cases t path octets with ⟨place, located, free, -, -, shapes⟩ | ⟨e, refused⟩
  · obtain rfl := locate_ok located
    by_cases hq : q = t.resolve path
    · subst hq
      exact .stored here free octets (by rw [shapes, if_pos rfl])
    · rw [write, located]
      dsimp only
      cases hn : t.node? (t.resolve path) with
      | none => exact change_add _ hn hq
      | some n =>
        cases n with
        | directory time => exact .same rfl
        | file old time => exact .same ((node?_put t _ _ q).trans (if_neg hq))
  · rw [refused]
    exact .same rfl

end FileTree

end DesignTokens
