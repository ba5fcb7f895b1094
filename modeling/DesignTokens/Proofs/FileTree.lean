import DesignTokens.FileTree
import DesignTokens.Proofs.Association
import DesignTokens.Proofs.TextEncoding

/-!
# What operations on files change

Storing a file changes what stands at its place and nothing else, modification times aside. No
operation of a build turns a directory into something else, so a path that leads somewhere goes on
leading there.
-/

namespace DesignTokens

theorem eq_ok_of_toOption {ε α : Type} {result : Except ε α} {a : α}
    (some : result.toOption = .some a) : result = .ok a := by
  cases result with
  | error e => cases some
  | ok a' => exact congrArg Except.ok (Option.some.inj some)

/-- The octets of a file; a directory has none. -/
def Node.octets? : Node → Option (List UInt8)
  | .file octets _ => some octets
  | .directory _ => none

theorem Node.octets?_stamp (n : Node) (time : Time) : (n.stamp time).octets? = n.octets? := by
  cases n <;> rfl

namespace FileTree

/-- What stands at a place, modification times aside. -/
def shape (t : FileTree) (place : Place) : Option (Option (List UInt8)) :=
  (t.node? place).map Node.octets?

theorem lookup_setNode (nodes : List (Place × Node)) (place : Place) (n : Node) (q : Place) :
    (setNode nodes place n).lookup q = if q = place then some n else nodes.lookup q := by
  induction nodes with
  | nil => exact lookup_cons_ite place n [] q
  | cons e rest ih =>
    obtain ⟨p, old⟩ := e
    by_cases hp : p = place
    · subst hp
      rw [setNode, if_pos rfl, lookup_cons_ite, lookup_cons_ite]
      by_cases hq : q = p <;> simp [hq]
    · rw [setNode, if_neg hp, lookup_cons_ite, lookup_cons_ite, ih]
      by_cases hq : q = p
      · have hne : q ≠ place := fun h => hp (hq.symm.trans h)
        rw [if_pos hq, if_neg hne, if_pos hq]
      · rw [if_neg hq, if_neg hq]

theorem node?_put (t : FileTree) (place : Place) (n : Node) (q : Place) :
    (t.put place n).node? q = if q = place then some n else t.node? q := by
  rw [node?, put, lookup_setNode]
  by_cases hq : q = place
  · rw [if_pos hq, if_pos hq]
  · rw [if_neg hq, if_neg hq]
    rfl

theorem shape_put (t : FileTree) (place : Place) (n : Node) (q : Place) :
    (t.put place n).shape q = if q = place then some n.octets? else t.shape q := by
  rw [shape, node?_put]
  by_cases hq : q = place
  · rw [if_pos hq, if_pos hq]
    rfl
  · rw [if_neg hq, if_neg hq]
    rfl

theorem node?_touchParent (t : FileTree) (place q : Place) (hq : q ≠ place.dropLast) :
    (t.touchParent place).node? q = t.node? q := by
  rw [touchParent]
  cases t.node? place.dropLast with
  | none => rfl
  | some n => exact (node?_put t _ _ q).trans (if_neg hq)

theorem shape_touchParent (t : FileTree) (place q : Place) :
    (t.touchParent place).shape q = t.shape q := by
  by_cases hq : q = place.dropLast
  · subst hq
    cases hn : t.node? place.dropLast with
    | none =>
      rw [touchParent, hn]
    | some n =>
      rw [touchParent, hn, shape_put, if_pos rfl, Node.octets?_stamp, shape, hn]
      rfl
  · rw [shape, node?_touchParent t place q hq]
    rfl

theorem shape_add (t : FileTree) (place : Place) (n : Node) (q : Place) :
    (t.add place n).shape q = if q = place then some n.octets? else t.shape q := by
  have hs : (t.add place n).shape q = ((t.touchParent place).put place n).shape q := rfl
  rw [hs, shape_put, shape_touchParent]

/-- Two trees start paths at the same places. -/
structure SameAnchors (t t' : FileTree) : Prop where
  working : t'.working = t.working
  bundled : t'.bundled = t.bundled

theorem sameAnchors_refl (t : FileTree) : SameAnchors t t := ⟨rfl, rfl⟩

theorem SameAnchors.trans {t t' t'' : FileTree} (h : SameAnchors t t') (h' : SameAnchors t' t'') :
    SameAnchors t t'' :=
  ⟨h'.working.trans h.working, h'.bundled.trans h.bundled⟩

theorem SameAnchors.anchorPlace {t t' : FileTree} (h : SameAnchors t t') (a : Anchor) :
    t'.anchorPlace a = t.anchorPlace a := by
  cases a with
  | working => exact h.working
  | root => rfl
  | doubleRoot => rfl
  | bundled => exact h.bundled

theorem SameAnchors.resolve {t t' : FileTree} (h : SameAnchors t t') (path : Path) :
    t'.resolve path = t.resolve path := by
  rw [FileTree.resolve, FileTree.resolve, h.anchorPlace]

theorem walk_ok {t : FileTree} {place place' : Place} {names : List String}
    (h : t.walk place names = .ok place') : place' = names.foldl step place := by
  induction names generalizing place with
  | nil => exact (Except.ok.inj h).symm
  | cons name rest ih =>
    rw [walk] at h
    split at h
    · split at h
      · cases h
      · exact ih h
    · cases h
    · cases h

theorem walk_of_locate {t : FileTree} {path : Path} {place : Place}
    (h : t.locate path = .ok place) :
    t.walk (t.anchorPlace path.anchor) path.parts = .ok place := by
  rw [locate] at h
  split at h
  · cases h
  · split at h
    · cases h
    · exact h

theorem locate_ok {t : FileTree} {path : Path} {place : Place} (h : t.locate path = .ok place) :
    place = t.resolve path :=
  walk_ok (walk_of_locate h)

theorem shape_of_directory {t : FileTree} {place : Place} {time : Time}
    (h : t.node? place = some (.directory time)) : t.shape place = some none := by
  rw [shape, h]
  rfl

theorem directory_of_shape {t : FileTree} {place : Place} (h : t.shape place = some none) :
    ∃ time, t.node? place = some (.directory time) := by
  rw [shape, Option.map_eq_some_iff] at h
  obtain ⟨n, hn, ho⟩ := h
  cases n with
  | file octets time => cases ho
  | directory time => exact ⟨time, hn⟩

/-- Directories stay directories. -/
def Keeps (t t' : FileTree) : Prop := ∀ q, t.shape q = some none → t'.shape q = some none

theorem walk_of_keeps {t t' : FileTree} (keeps : Keeps t t') {place place' : Place}
    {names : List String} (h : t.walk place names = .ok place') :
    t'.walk place names = .ok place' := by
  induction names generalizing place with
  | nil => exact h
  | cons name rest ih =>
    rw [walk] at h
    split at h
    · rename_i time hn
      obtain ⟨time', hn'⟩ := directory_of_shape (keeps place (shape_of_directory hn))
      rw [walk, hn']
      split at h
      · cases h
      · rename_i hs
        rw [if_neg hs]
        exact ih h
    · cases h
    · cases h

theorem locate_of_keeps {t t' : FileTree} (anchors : SameAnchors t t') (keeps : Keeps t t')
    {path : Path} {place : Place} (h : t.locate path = .ok place) : t'.locate path = .ok place := by
  rw [locate] at h ⊢
  rw [anchors.anchorPlace]
  split at h
  · cases h
  · rename_i hn
    rw [if_neg hn]
    split at h
    · cases h
    · rename_i hl
      rw [if_neg hl]
      exact walk_of_keeps keeps h

theorem isDirectory_iff (t : FileTree) (path : Path) :
    t.isDirectory path ↔ ∃ place, t.locate path = .ok place ∧ t.shape place = some none := by
  rw [isDirectory, stat]
  cases t.locate path with
  | error cause => simp
  | ok place =>
    cases hn : t.node? place with
    | none => simp [shape, hn]
    | some n => cases n <;> simp [shape, hn, Node.octets?, Node.isFile]

theorem isDirectory_of_keeps {t t' : FileTree} (anchors : SameAnchors t t') (keeps : Keeps t t')
    {path : Path} (there : t.isDirectory path) : t'.isDirectory path := by
  rw [isDirectory_iff] at there ⊢
  obtain ⟨place, hl, hs⟩ := there
  exact ⟨place, locate_of_keeps anchors keeps hl, keeps place hs⟩

theorem walk_append {t : FileTree} {place place' : Place} {names : List String}
    (h : t.walk place names = .ok place') (more : List String) :
    t.walk place (names ++ more) = t.walk place' more := by
  induction names generalizing place with
  | nil => rw [← Except.ok.inj h, List.nil_append]
  | cons name rest ih =>
    rw [walk] at h
    rw [List.cons_append, walk]
    split at h
    · split at h
      · cases h
      · rename_i hs
        rw [if_neg hs]
        exact ih h
    · cases h
    · cases h

theorem walk_ne_nul (t : FileTree) (place : Place) (names : List String) :
    t.walk place names ≠ .error .nul := by
  induction names generalizing place with
  | nil => exact fun h => nomatch h
  | cons name rest ih =>
    rw [walk]
    split
    · split
      · exact fun h => nomatch h
      · exact ih _
    · exact fun h => nomatch h
    · exact fun h => nomatch h

/-- Only a name with the character NUL is refused for that character. -/
theorem locate_eq_nul_iff (t : FileTree) (path : Path) :
    t.locate path = .error .nul ↔ path.hasNul := by
  rw [locate]
  split
  · rename_i nul
    exact ⟨fun _ => nul, fun _ => rfl⟩
  · rename_i named
    refine ⟨fun h => ?_, fun nul => absurd nul named⟩
    split at h
    · cases h
    · exact absurd h (t.walk_ne_nul _ _)

/-- Two trees that agree on where a directory is agree on where its files are. -/
theorem locate_below {t t' : FileTree} {path : Path} (same : t'.resolve path = t.resolve path)
    (there : t.isDirectory path) (there' : t'.isDirectory path) (name : String) :
    t'.locate ⟨path.anchor, path.parts ++ [name]⟩ =
      t.locate ⟨path.anchor, path.parts ++ [name]⟩ := by
  obtain ⟨place, hl, hs⟩ := (isDirectory_iff t path).mp there
  obtain ⟨place', hl', hs'⟩ := (isDirectory_iff t' path).mp there'
  obtain rfl : place' = place := by rw [locate_ok hl, locate_ok hl', same]
  obtain ⟨time, hn⟩ := directory_of_shape hs
  obtain ⟨time', hn'⟩ := directory_of_shape hs'
  have walked := walk_append (walk_of_locate hl) [name]
  have walked' := walk_append (walk_of_locate hl') [name]
  rw [walk, hn] at walked
  rw [walk, hn'] at walked'
  rw [locate, locate, walked, walked']
  rfl
theorem sameAnchors_put (t : FileTree) (place : Place) (n : Node) : SameAnchors t (t.put place n) :=
  ⟨rfl, rfl⟩

theorem sameAnchors_add (t : FileTree) (place : Place) (n : Node) :
    SameAnchors t (t.add place n) := by
  have touched : SameAnchors t (t.touchParent place) := by
    rw [touchParent]
    cases t.node? place.dropLast with
    | none => exact ⟨rfl, rfl⟩
    | some n => exact sameAnchors_put t _ _
  exact ⟨touched.working, touched.bundled⟩

/-- What storing octets under a path comes to: they stand at the place of the path, where there was
no directory, or the tree is as it was. -/
theorem write_cases (t : FileTree) (path : Path) (octets : List UInt8) :
    (∃ place, t.locate path = .ok place ∧ t.shape place ≠ some none ∧
      (t.write path octets).2 = none ∧ SameAnchors t (t.write path octets).1 ∧
      ∀ q, (t.write path octets).1.shape q = if q = place then some (some octets) else t.shape q) ∨
    (∃ e, t.write path octets = (t, some e)) := by
  cases hl : t.locate path with
  | error cause =>
    have hw : t.write path octets = (t, some ⟨cause, path⟩) := by simp only [write, hl]
    exact Or.inr ⟨_, hw⟩
  | ok place =>
    cases hn : t.node? place with
    | none =>
      have hd : t.shape place ≠ some none := by simp [shape, hn]
      have hw : t.write path octets = (t.add place (.file octets t.now), none) := by
        simp only [write, hl, hn]
      rw [hw]
      exact Or.inl ⟨place, rfl, hd, rfl, sameAnchors_add t _ _, shape_add t _ _⟩
    | some n =>
      cases n with
      | directory time =>
        have hw : t.write path octets = (t, some ⟨.isDirectory, path⟩) := by
          simp only [write, hl, hn]
        exact Or.inr ⟨_, hw⟩
      | file old time =>
        have hd : t.shape place ≠ some none := by simp [shape, hn, Node.octets?]
        have hw : t.write path octets = ((t.put place (.file octets t.now)).tick, none) := by
          simp only [write, hl, hn]
        rw [hw]
        exact Or.inl ⟨place, rfl, hd, rfl, ⟨rfl, rfl⟩, shape_put t _ _⟩

theorem keeps_write (t : FileTree) (path : Path) (octets : List UInt8) :
    Keeps t (t.write path octets).1 := by
  rcases write_cases t path octets with ⟨place, -, hd, -, -, shapes⟩ | ⟨e, he⟩
  · intro q hq
    have hne : q ≠ place := fun h => hd (h ▸ hq)
    rw [shapes, if_neg hne, hq]
  · rw [he]
    exact fun q hq => hq

theorem sameAnchors_write (t : FileTree) (path : Path) (octets : List UInt8) :
    SameAnchors t (t.write path octets).1 := by
  rcases write_cases t path octets with ⟨place, -, -, -, anchors, -⟩ | ⟨e, he⟩
  · exact anchors
  · rw [he]
    exact ⟨rfl, rfl⟩

theorem shape_write_other {t : FileTree} {path : Path} {q : Place} (apart : q ≠ t.resolve path)
    (octets : List UInt8) : (t.write path octets).1.shape q = t.shape q := by
  rcases write_cases t path octets with ⟨place, hl, -, -, -, shapes⟩ | ⟨e, he⟩
  · rw [shapes, if_neg (locate_ok hl ▸ apart)]
  · rw [he]

/-- A file is not stored if its path leads nowhere or to a directory. -/
theorem refusal_write (t : FileTree) (path : Path) (octets : List UInt8) :
    (t.write path octets).2 =
      match t.locate path with
      | .error cause => some ⟨cause, path⟩
      | .ok place => if t.shape place = some none then some ⟨.isDirectory, path⟩ else none := by
  rw [write]
  cases t.locate path with
  | error cause => rfl
  | ok place =>
    dsimp only
    cases hn : t.node? place with
    | none => simp [shape, hn]
    | some n => cases n <;> simp [shape, hn, Node.octets?]

/-- Storing a file is refused alike when its path leads to the same place with the same in it. -/
theorem refusal_write_congr {t t' : FileTree} {path : Path}
    (located : t'.locate path = t.locate path)
    (same : t'.shape (t.resolve path) = t.shape (t.resolve path)) (octets : List UInt8) :
    (t'.write path octets).2 = (t.write path octets).2 := by
  rw [refusal_write, refusal_write, located]
  cases hl : t.locate path with
  | error cause => rfl
  | ok place =>
    dsimp only
    rw [locate_ok hl, same]

theorem hasNul_of_write {t : FileTree} {path : Path} {octets : List UInt8} {e : FileError}
    (refused : (t.write path octets).2 = some e) (nul : e.cause = .nul) : path.hasNul := by
  rw [← t.locate_eq_nul_iff]
  rw [refusal_write] at refused
  cases hl : t.locate path with
  | error cause =>
    rw [hl] at refused
    rw [← Option.some.inj refused] at nul
    exact congrArg Except.error nul
  | ok place =>
    rw [hl] at refused
    dsimp only at refused
    split at refused
    · rw [← Option.some.inj refused] at nul
      cases nul
    · cases refused

/-- Reading a file is finding its octets where its path leads. -/
theorem read_eq_ok_iff (t : FileTree) (path : Path) (octets : List UInt8) :
    t.read path = .ok octets ↔
      ∃ place, t.locate path = .ok place ∧ t.shape place = some (some octets) := by
  rw [read, stat]
  cases t.locate path with
  | error cause => simp
  | ok place =>
    cases hn : t.node? place with
    | none => simp [shape, hn]
    | some n => cases n <;> simp [shape, hn, Node.octets?]

/-- A file that can be read can be stored anew. -/
theorem refusal_write_of_read {t : FileTree} {path : Path} {old : List UInt8}
    (read : t.read path = .ok old) (octets : List UInt8) : (t.write path octets).2 = none := by
  obtain ⟨place, located, file⟩ := (t.read_eq_ok_iff path old).mp read
  rw [refusal_write, located]
  exact if_neg (by rw [file]; simp)

theorem read_write_self {t : FileTree} {path : Path} {octets : List UInt8}
    (stored : (t.write path octets).2 = none) : (t.write path octets).1.read path = .ok octets := by
  rcases write_cases t path octets with ⟨place, hl, -, -, anchors, shapes⟩ | ⟨e, he⟩
  · rw [read_eq_ok_iff]
    refine ⟨place, locate_of_keeps anchors (keeps_write t path octets) hl, ?_⟩
    rw [shapes, if_pos rfl]
  · rw [he] at stored
    cases stored

theorem read_write_other {t : FileTree} {path other : Path} {octets old : List UInt8}
    (apart : t.resolve other ≠ t.resolve path) (read : t.read other = .ok old) :
    (t.write path octets).1.read other = .ok old := by
  rcases write_cases t path octets with ⟨place, hl, -, -, anchors, shapes⟩ | ⟨e, he⟩
  · rw [read_eq_ok_iff] at read ⊢
    obtain ⟨place', hl', hs⟩ := read
    have hne : place' ≠ place := by
      rw [locate_ok hl, locate_ok hl']
      exact apart
    refine ⟨place', locate_of_keeps anchors (keeps_write t path octets) hl', ?_⟩
    rw [shapes, if_neg hne, hs]
  · rw [he]
    exact read

/-- A file holds a text. -/
def Holds (t : FileTree) (path : Path) (text : Text) : Prop :=
  ∃ octets, text.encode = .ok octets ∧ t.read path = .ok octets

theorem Holds.read {t : FileTree} {path : Path} {text : Text} (holds : t.Holds path text) :
    t.read path = .ok text.octets := by
  obtain ⟨octets, encoded, read⟩ := holds
  rw [Text.octets_of_encode encoded, read]

/-- What a path leads to, if it leads anywhere. -/
def view (t : FileTree) (path : Path) : Option Node := (t.stat path).toOption

theorem modified?_eq (t : FileTree) (path : Path) :
    t.modified? path = (t.view path).map Node.modified := by
  rw [modified?, view]
  cases t.stat path <;> rfl

theorem read_toOption (t : FileTree) (path : Path) :
    (t.read path).toOption = (t.view path).bind Node.octets? := by
  rw [read, view]
  cases t.stat path with
  | error cause => rfl
  | ok n => cases n <;> rfl

theorem read_of_view {t : FileTree} {path : Path} {octets : List UInt8} {time : Time}
    (view : t.view path = some (.file octets time)) : t.read path = .ok octets := by
  refine eq_ok_of_toOption ?_
  rw [read_toOption, view]
  rfl

theorem view_eq_some_iff (t : FileTree) (path : Path) (n : Node) :
    t.view path = some n ↔ ∃ place, t.locate path = .ok place ∧ t.node? place = some n := by
  rw [view, stat]
  cases t.locate path with
  | error cause => simp [Except.toOption]
  | ok place =>
    cases hn : t.node? place with
    | none => simp [Except.toOption, hn]
    | some n' => simp [Except.toOption, hn]

theorem hasNul_of_view {t : FileTree} {path : Path} {n : Node} (shown : t.view path = some n) :
    path.hasNul = false := by
  obtain ⟨place, hl, -⟩ := (t.view_eq_some_iff path n).mp shown
  cases hn : path.hasNul with
  | false => rfl
  | true =>
    rw [locate, hn, if_pos rfl] at hl
    cases hl

theorem shape_setModified (t : FileTree) (path : Path) (time : Time) (q : Place) :
    (t.setModified path time).1.shape q = t.shape q := by
  cases hl : t.locate path with
  | error cause => simp only [setModified, hl]
  | ok place =>
    cases hn : t.node? place with
    | none => simp only [setModified, hl, hn]
    | some n =>
      simp only [setModified, hl, hn]
      rw [shape_put]
      split
      · rename_i here
        rw [Node.octets?_stamp, here, shape, hn]
        rfl
      · rfl

theorem sameAnchors_setModified (t : FileTree) (path : Path) (time : Time) :
    SameAnchors t (t.setModified path time).1 := by
  cases hl : t.locate path with
  | error cause =>
    simp only [setModified, hl]
    exact sameAnchors_refl t
  | ok place =>
    cases hn : t.node? place with
    | none =>
      simp only [setModified, hl, hn]
      exact sameAnchors_refl t
    | some n =>
      simp only [setModified, hl, hn]
      exact sameAnchors_put t place _

theorem view_setModified {t : FileTree} {path : Path} {n : Node} (shown : t.view path = some n)
    (time : Time) : (t.setModified path time).1.view path = some (n.stamp time) := by
  obtain ⟨place, hl, hn⟩ := (t.view_eq_some_iff path n).mp shown
  rw [view_eq_some_iff]
  refine ⟨place, locate_of_keeps (t.sameAnchors_setModified path time) (fun q hq => ?_) hl, ?_⟩
  · rw [shape_setModified, hq]
  · simp only [setModified, hl, hn]
    rw [node?_put, if_pos rfl]

end FileTree

end DesignTokens
