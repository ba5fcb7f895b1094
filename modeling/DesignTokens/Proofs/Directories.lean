import DesignTokens.Proofs.Footprint

/-!
# What making directories changes

A directory is made with those that lead to it. Whether or not this is refused, the only change is
that there are directories where there was nothing, and all of them are on the way.
-/

namespace DesignTokens

namespace FileTree

/-- Making a directory adds it, or the tree is as it was. -/
theorem makeDirectory_cases (t : FileTree) (path : Path) :
    (∃ place, t.locate path = .ok place ∧ t.node? place = none ∧
      t.makeDirectory path = (t.add place (.directory t.now), none)) ∨
    (∃ e, t.makeDirectory path = (t, some e)) := by
  cases hl : t.locate path with
  | error cause =>
    have hm : t.makeDirectory path = (t, some ⟨cause, path⟩) := by simp only [makeDirectory, hl]
    exact Or.inr ⟨_, hm⟩
  | ok place =>
    cases hn : t.node? place with
    | none =>
      have hm : t.makeDirectory path = (t.add place (.directory t.now), none) := by
        simp only [makeDirectory, hl, hn]
      exact Or.inl ⟨place, rfl, hn, hm⟩
    | some n =>
      have hm : t.makeDirectory path = (t, some ⟨.alreadyThere, path⟩) := by
        simp only [makeDirectory, hl, hn]
      exact Or.inr ⟨_, hm⟩

/-- A path passes the places that it and the paths above it lead to. -/
def Passes (t : FileTree) (path : Path) (place : Place) : Prop :=
  ∃ n, t.resolve ⟨path.anchor, path.parts.take n⟩ = place

theorem Passes.of_parent {t : FileTree} {path : Path} {place : Place}
    (passes : t.Passes path.parent place) : t.Passes path place := by
  obtain ⟨n, hn⟩ := passes
  refine ⟨min n (path.parts.length - 1), ?_⟩
  rw [← hn, ← List.take_take, ← List.dropLast_eq_take]
  rfl

theorem SameAnchors.passes {t t' : FileTree} (anchors : SameAnchors t t') {path : Path}
    {place : Place} : t'.Passes path place ↔ t.Passes path place := by
  simp only [Passes, anchors.resolve]

section
variable {way stored : Place → Prop}

theorem confined_ensureDirectory {t : FileTree} {path : Path} (ways : ∀ q, t.Passes path q → way q) :
    Confined way stored t (t.ensureDirectory path).1 := by
  rw [ensureDirectory]
  rcases makeDirectory_cases t path with ⟨place, hl, hn, hm⟩ | ⟨e, hm⟩
  · rw [hm]
    refine confined_addDirectory (ways place ⟨path.parts.length, ?_⟩) hn _
    rw [List.take_length, locate_ok hl]
  · rw [hm]
    dsimp only
    split <;> exact confined_refl t

theorem confined_ensureDirectoriesUpTo (fuel : Nat) {t : FileTree} {path : Path}
    (ways : ∀ q, t.Passes path q → way q) :
    Confined way stored t (t.ensureDirectoriesUpTo path fuel).1 := by
  induction fuel generalizing t path with
  | zero => exact confined_ensureDirectory ways
  | succ fuel ih =>
    rw [ensureDirectoriesUpTo]
    have first : Confined way stored t (t.ensureDirectory path).1 := confined_ensureDirectory ways
    split
    · rename_i t₁ e he
      rw [he] at first
      have ways₁ : ∀ q, t₁.Passes path q → way q := fun q passes =>
        ways q (first.anchors.passes.mp passes)
      split
      · have upward := first.trans (ih fun q passes => ways₁ q passes.of_parent)
        split
        · rename_i t₂ hu
          rw [hu] at upward
          have ways₂ : ∀ q, t₂.Passes path q → way q := fun q passes =>
            ways q (upward.anchors.passes.mp passes)
          exact upward.trans (confined_ensureDirectory ways₂)
        · exact upward
      · exact first
    · exact first

/-- Whether or not a directory can be made, only directories that its path passes are new. -/
theorem confined_ensureDirectories (t : FileTree) (path : Path) :
    Confined (t.Passes path) stored t (t.ensureDirectories path).1 :=
  confined_ensureDirectoriesUpTo _ fun _ passes => passes

end

theorem sameAnchors_ensureDirectories (t : FileTree) (path : Path) :
    SameAnchors t (t.ensureDirectories path).1 := by
  have confined : Confined (t.Passes path) (fun _ => False) t (t.ensureDirectories path).1 :=
    confined_ensureDirectories t path
  exact confined.anchors

theorem hasNul_of_ensureDirectory {t : FileTree} {path : Path} {e : FileError}
    (refused : (t.ensureDirectory path).2 = some e) (nul : e.cause = .nul) : path.hasNul := by
  rw [← t.locate_eq_nul_iff]
  rw [ensureDirectory, makeDirectory] at refused
  cases hl : t.locate path with
  | error cause =>
    rw [hl] at refused
    dsimp only at refused
    split at refused
    · cases refused
    · rw [← Option.some.inj refused] at nul
      exact congrArg Except.error nul
  | ok place =>
    rw [hl] at refused
    dsimp only at refused
    cases hn : t.node? place with
    | none =>
      rw [hn] at refused
      cases refused
    | some n =>
      rw [hn] at refused
      dsimp only at refused
      split at refused
      · cases refused
      · rw [← Option.some.inj refused] at nul
        cases nul

theorem hasNul_of_parent {path : Path} (nul : path.parent.hasNul) : path.hasNul := by
  obtain ⟨name, hname, hnul⟩ := List.any_eq_true.mp nul
  exact List.any_eq_true.mpr ⟨name, (List.dropLast_sublist _).subset hname, hnul⟩

theorem hasNul_of_ensureDirectoriesUpTo {fuel : Nat} {t : FileTree} {path : Path} {e : FileError}
    (refused : (t.ensureDirectoriesUpTo path fuel).2 = some e) (nul : e.cause = .nul) :
    path.hasNul := by
  induction fuel generalizing t path with
  | zero => exact hasNul_of_ensureDirectory refused nul
  | succ fuel ih =>
    rw [ensureDirectoriesUpTo] at refused
    have here : (t.ensureDirectory path).2 = some e → e.cause = .nul → path.hasNul :=
      hasNul_of_ensureDirectory
    rcases he : t.ensureDirectory path with ⟨t₁, refusal⟩
    rw [he] at refused here
    cases refusal with
    | none => cases refused
    | some e₁ =>
      dsimp only at refused
      split at refused
      · have above : (t₁.ensureDirectoriesUpTo path.parent fuel).2 = some e → path.parent.hasNul :=
          ih
        rcases hu : t₁.ensureDirectoriesUpTo path.parent fuel with ⟨t₂, refusal⟩
        rw [hu] at refused above
        cases refusal with
        | none => exact hasNul_of_ensureDirectory refused nul
        | some e₂ => exact hasNul_of_parent (above refused)
      · exact here refused nul

theorem hasNul_of_ensureDirectories {t : FileTree} {path : Path} {e : FileError}
    (refused : (t.ensureDirectories path).2 = some e) (nul : e.cause = .nul) : path.hasNul :=
  hasNul_of_ensureDirectoriesUpTo refused nul

/-- A name with the character NUL is refused before any directory is made. -/
theorem ensureDirectories_of_hasNul (t : FileTree) {path : Path} (nul : path.hasNul) :
    t.ensureDirectories path = (t, some ⟨.nul, path⟩) := by
  have located := (t.locate_eq_nul_iff path).mpr nul
  have nowhere : t.isDirectory path = false := by simp [isDirectory, stat, located]
  have here : t.ensureDirectory path = (t, some ⟨.nul, path⟩) := by
    simp [ensureDirectory, makeDirectory, located, nowhere]
  rw [ensureDirectories]
  cases path.parts.length with
  | zero => exact here
  | succ fuel => simp [ensureDirectoriesUpTo, here]

theorem isDirectory_ensureDirectory {t : FileTree} {path : Path}
    (made : (t.ensureDirectory path).2 = none) : (t.ensureDirectory path).1.isDirectory path := by
  have confined : Confined (t.Passes path) (fun _ => False) t (t.ensureDirectory path).1 :=
    confined_ensureDirectory fun _ passes => passes
  have kept := confined.keeps
  have anchors := confined.anchors
  rw [ensureDirectory] at made kept anchors ⊢
  rcases makeDirectory_cases t path with ⟨place, hl, -, hm⟩ | ⟨e, hm⟩
  · rw [hm] at kept anchors ⊢
    refine (isDirectory_iff _ path).mpr ⟨place, locate_of_keeps anchors kept hl, ?_⟩
    dsimp only
    rw [shape_add, if_pos rfl]
    rfl
  · rw [hm] at made ⊢
    dsimp only at made ⊢
    split at made
    · rename_i there
      rw [if_pos there]
      exact there.2
    · cases made

theorem isDirectory_ensureDirectoriesUpTo {fuel : Nat} {t : FileTree} {path : Path}
    (made : (t.ensureDirectoriesUpTo path fuel).2 = none) :
    (t.ensureDirectoriesUpTo path fuel).1.isDirectory path := by
  cases fuel with
  | zero => exact isDirectory_ensureDirectory made
  | succ fuel =>
    rw [ensureDirectoriesUpTo] at made ⊢
    have here : (t.ensureDirectory path).2 = none → (t.ensureDirectory path).1.isDirectory path :=
      isDirectory_ensureDirectory
    rcases he : t.ensureDirectory path with ⟨t₁, refusal⟩
    rw [he] at made here
    cases refusal with
    | none => exact here rfl
    | some e =>
      dsimp only at made ⊢
      split at made
      · rename_i missing
        rw [if_pos missing]
        rcases hu : t₁.ensureDirectoriesUpTo path.parent fuel with ⟨t₂, refusal⟩
        rw [hu] at made
        cases refusal with
        | none => exact isDirectory_ensureDirectory made
        | some e' => cases made
      · cases made

/-- Once it has been made, a directory is there. -/
theorem isDirectory_ensureDirectories {t : FileTree} {path : Path}
    (made : (t.ensureDirectories path).2 = none) :
    (t.ensureDirectories path).1.isDirectory path :=
  isDirectory_ensureDirectoriesUpTo made

end FileTree

end DesignTokens
