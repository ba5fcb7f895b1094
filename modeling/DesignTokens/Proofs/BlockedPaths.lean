import DesignTokens.Proofs.SharedStores

/-!
# Directories that are refused for good

A directory that is there is not made again. One that cannot be made is refused once more when it is
asked for again, and then nothing changes: what was made on the way has brought the path as far as it
gets. The first refusal may be that of a path above it, which was only tried because the way to it was
missing; the later ones are those of the path itself.
-/

namespace DesignTokens

/-- A path is above another one. -/
def Path.Above (p q : Path) : Prop :=
  ∃ n, n < q.parts.length ∧ p = ⟨q.anchor, q.parts.take n⟩

theorem Path.above_parent {path : Path} (below : path.parts ≠ []) : path.parent.Above path := by
  refine ⟨path.parts.length - 1, ?_, ?_⟩
  · have pos := List.length_pos_iff.mpr below
    omega
  · rw [parent, List.dropLast_eq_take]

theorem Path.Above.of_parent {p path : Path} (above : p.Above path.parent) : p.Above path := by
  obtain ⟨n, short, rfl⟩ := above
  rw [parent, List.length_dropLast] at short
  refine ⟨n, by omega, ?_⟩
  rw [parent]
  dsimp only
  rw [List.dropLast_eq_take, List.take_take, Nat.min_eq_left (by omega)]

/-- A path that is not too long has a parent that is not too long. -/
theorem Path.size_parent {path : Path} (below : path.parts ≠ [])
    (short : path.text.utf8ByteSize ≤ FileTree.maxPath) :
    path.parent.text.utf8ByteSize ≤ FileTree.maxPath := by
  obtain ⟨anchor, parts⟩ := path
  rcases List.eq_nil_or_concat parts with rfl | ⟨names, name, rfl⟩
  · exact absurd rfl below
  rw [List.concat_eq_append] at short ⊢
  rw [parent, List.dropLast_concat]
  by_cases first : names = []
  · -- The parent is an anchor alone.
    rw [first]
    dsimp only
    cases anchor <;> decide
  · have filled : names.isEmpty = false := by simpa using first
    have filled' : (names ++ [name]).isEmpty = false := by simp
    have joined : "/".intercalate (names ++ [name]) = "/".intercalate names ++ ("/" ++ name) := by
      rw [String.intercalate_append_of_ne_nil first (List.cons_ne_nil _ _),
        String.intercalate_singleton, String.append_assoc]
    cases anchor <;>
      simp only [text, joined, filled, filled', if_neg Bool.false_ne_true,
        String.utf8ByteSize_append] at short ⊢ <;>
      omega

namespace FileTree

variable {t : FileTree} {path : Path}

theorem ensureDirectory_of_isDirectory (there : t.isDirectory path) :
    t.ensureDirectory path = (t, none) := by
  obtain ⟨place, located, directory⟩ := (t.isDirectory_iff path).mp there
  obtain ⟨time, hn⟩ := directory_of_shape directory
  rw [ensureDirectory, makeDirectory, located]
  dsimp only
  rw [hn]
  simp [there]

/-- A directory that is there is not made again. -/
theorem ensureDirectories_of_isDirectory (there : t.isDirectory path) :
    t.ensureDirectories path = (t, none) := by
  have here := ensureDirectory_of_isDirectory there
  rw [ensureDirectories]
  cases path.parts.length with
  | zero => exact here
  | succ fuel => rw [ensureDirectoriesUpTo, here]

/-- A refusal of one directory changes nothing and names it. -/
theorem ensureDirectory_refused {e : FileError} (refused : (t.ensureDirectory path).2 = some e) :
    t.ensureDirectory path = (t, some ⟨e.cause, path⟩) ∧ e.path = path := by
  rw [ensureDirectory, makeDirectory] at refused ⊢
  cases located : t.locate path with
  | error cause =>
    rw [located] at refused
    dsimp only at refused ⊢
    split at refused
    · cases refused
    · rename_i stays
      rw [← Option.some.inj refused, if_neg stays]
      exact ⟨rfl, rfl⟩
  | ok place =>
    rw [located] at refused
    dsimp only at refused ⊢
    cases hn : t.node? place with
    | none =>
      rw [hn] at refused
      cases refused
    | some n =>
      rw [hn] at refused
      dsimp only at refused ⊢
      split at refused
      · cases refused
      · rename_i stays
        rw [← Option.some.inj refused, if_neg stays]
        exact ⟨rfl, rfl⟩

/-- A path that cannot be located is refused for the reason why. -/
theorem ensureDirectory_of_lost {cause : FileCause} (lost : t.locate path = .error cause) :
    t.ensureDirectory path = (t, some ⟨cause, path⟩) := by
  have nowhere : t.isDirectory path = false := by
    simp [isDirectory, stat, lost]
  rw [ensureDirectory, makeDirectory, lost]
  simp [nowhere]

/-- What is refused cannot be located, or it leads to a file. -/
theorem locate_of_refused {e : FileError} (refused : (t.ensureDirectory path).2 = some e) :
    t.locate path = .error e.cause ∨ ∃ place octets, t.locate path = .ok place ∧
      t.shape place = some (some octets) ∧ e.cause = .alreadyThere := by
  cases located : t.locate path with
  | error cause =>
    rw [ensureDirectory_of_lost located] at refused
    exact Or.inl (by rw [← Option.some.inj refused])
  | ok place =>
    right
    rw [ensureDirectory, makeDirectory, located] at refused
    dsimp only at refused
    cases hn : t.node? place with
    | none =>
      rw [hn] at refused
      cases refused
    | some n =>
      rw [hn] at refused
      dsimp only at refused
      split at refused
      · cases refused
      · rename_i stays
        cases n with
        | directory time =>
          have there : t.isDirectory path :=
            (t.isDirectory_iff path).mpr ⟨place, located, shape_of_directory hn⟩
          exact absurd ⟨by simp, there⟩ stays
        | file octets time =>
          refine ⟨place, octets, rfl, ?_, ?_⟩
          · rw [shape, hn]
            rfl
          · rw [← Option.some.inj refused]

/-- A path is refused as a directory, and not because the way to it is missing. -/
structure Blocked (t : FileTree) (path : Path) (cause : FileCause) : Prop where
  refused : t.ensureDirectory path = (t, some ⟨cause, path⟩)
  final : cause ≠ .missing

theorem Blocked.ensureDirectories {cause : FileCause} (blocked : t.Blocked path cause) :
    t.ensureDirectories path = (t, some ⟨cause, path⟩) := by
  rw [FileTree.ensureDirectories]
  cases path.parts.length with
  | zero => exact blocked.refused
  | succ fuel =>
    rw [ensureDirectoriesUpTo, blocked.refused]
    exact if_neg fun again => blocked.final again.1

theorem blocked_of_refused {e : FileError} (refused : (t.ensureDirectory path).2 = some e)
    (final : e.cause ≠ .missing) :
    (t.ensureDirectory path).1.Blocked path e.cause ∧ e = ⟨e.cause, path⟩ := by
  obtain ⟨same, named⟩ := ensureDirectory_refused refused
  rw [same]
  exact ⟨⟨same, final⟩, by rw [← named]⟩

/-- Names are refused for being too long, for following a file or for being missing. -/
theorem walk_error {place : Place} {names : List String} {cause : FileCause}
    (lost : t.walk place names = .error cause) :
    cause = .nameTooLong ∨ cause = .notDirectory ∨ cause = .missing := by
  induction names generalizing place with
  | nil => cases lost
  | cons name rest ih =>
    rw [walk] at lost
    split at lost
    · split at lost
      · exact Or.inl (Except.error.inj lost).symm
      · exact ih lost
    · exact Or.inr (Or.inl (Except.error.inj lost).symm)
    · exact Or.inr (Or.inr (Except.error.inj lost).symm)

/-- More names do not mend a way that is lost. -/
theorem walk_append_of_error {place : Place} {names : List String} {cause : FileCause}
    (lost : t.walk place names = .error cause) (more : List String) :
    t.walk place (names ++ more) = .error cause := by
  induction names generalizing place with
  | nil => cases lost
  | cons name rest ih =>
    rw [walk] at lost
    rw [List.cons_append, walk]
    split at lost
    · split at lost
      · rename_i long
        rw [if_pos long]
        exact lost
      · rename_i short
        rw [if_neg short]
        exact ih lost
    · exact lost
    · exact lost

/-- A path whose way is missing has a name and a length that paths can have. -/
theorem fits_of_missing (missing : t.locate path = .error .missing) :
    path.hasNul = false ∧ path.text.utf8ByteSize ≤ maxPath ∧ path.parts ≠ [] := by
  rw [locate] at missing
  split at missing
  · cases missing
  · rename_i named
    split at missing
    · cases missing
    · rename_i short
      refine ⟨by simpa using named, Nat.le_of_not_lt short, fun none => ?_⟩
      rw [none] at missing
      cases missing

theorem locate_of_missing {e : FileError} (refused : (t.ensureDirectory path).2 = some e)
    (missing : e.cause = .missing) : t.locate path = .error .missing := by
  rcases locate_of_refused refused with lost | ⟨-, -, -, -, other⟩
  · rw [lost, missing]
  · rw [missing] at other
    cases other

theorem locate_of_fits (named : path.hasNul = false)
    (short : path.text.utf8ByteSize ≤ maxPath) :
    t.locate path = t.walk (t.anchorPlace path.anchor) path.parts := by
  rw [locate, named, if_neg Bool.false_ne_true, if_neg (Nat.not_lt.mpr short)]

/-- Below a blocked path every path is blocked: there is a file on its way, or a name that is too
long. -/
theorem Blocked.below {cause : FileCause} (blocked : t.Blocked path.parent cause)
    (named : path.hasNul = false) (short : path.text.utf8ByteSize ≤ maxPath)
    (below : path.parts ≠ []) :
    ∃ cause', t.Blocked path cause' ∧ (cause' = .notDirectory ∨ cause' = .nameTooLong) := by
  have named' : path.parent.hasNul = false := by
    cases nul : path.parent.hasNul with
    | false => rfl
    | true =>
      rw [hasNul_of_parent nul] at named
      cases named
  have way := locate_of_fits (t := t) named' (Path.size_parent below short)
  have whole : path.parts = path.parent.parts ++ [path.parts.getLast below] :=
    (List.dropLast_append_getLast below).symm
  have refused : (t.ensureDirectory path.parent).2 = some ⟨cause, path.parent⟩ := by
    rw [blocked.refused]
  have lost : ∃ cause', t.locate path = .error cause' ∧
      (cause' = .notDirectory ∨ cause' = .nameTooLong) := by
    rw [locate_of_fits named short, whole]
    rcases locate_of_refused refused with lost | ⟨place, octets, located, file, -⟩
    · rw [way] at lost
      refine ⟨cause, walk_append_of_error lost _, ?_⟩
      rcases walk_error lost with long | notDirectory | missing
      · exact Or.inr long
      · exact Or.inl notDirectory
      · exact absurd missing blocked.final
    · rw [way] at located
      refine ⟨.notDirectory, ?_, Or.inl rfl⟩
      obtain ⟨n, hn, ho⟩ := Option.map_eq_some_iff.mp file
      cases n with
      | directory time => cases ho
      | file octets' time =>
        have further := walk_append located [path.parts.getLast below]
        rw [walk, hn] at further
        exact further
  obtain ⟨cause', lost, known⟩ := lost
  refine ⟨cause', ⟨ensureDirectory_of_lost lost, ?_⟩, known⟩
  rcases known with rfl | rfl <;> simp

/-- In a directory no way is missing. -/
theorem ne_missing_of_parent {e : FileError} (there : t.isDirectory path.parent)
    (refused : (t.ensureDirectory path).2 = some e) : e.cause ≠ .missing := by
  intro missing
  have lost := locate_of_missing refused missing
  obtain ⟨named, short, below⟩ := fits_of_missing lost
  obtain ⟨place, located, directory⟩ := (t.isDirectory_iff _).mp there
  obtain ⟨time, hn⟩ := directory_of_shape directory
  have whole : path.parts = path.parent.parts ++ [path.parts.getLast below] :=
    (List.dropLast_append_getLast below).symm
  have further := walk_append (walk_of_locate located) [path.parts.getLast below]
  have anchors : path.parent.anchor = path.anchor := rfl
  rw [locate_of_fits named short] at lost
  rw [← whole, anchors, lost, walk, hn] at further
  dsimp only at further
  split at further <;> cases further

/-- The way to an anchor is not missing. -/
theorem ne_missing_of_start {e : FileError} (start : path.parts = [])
    (refused : (t.ensureDirectory path).2 = some e) : e.cause ≠ .missing :=
  fun missing => (fits_of_missing (locate_of_missing refused missing)).2.2 start

/-- Who refuses a directory and those that lead to it: the path itself, when its way is not missing or
has been made, or else the path above it. -/
theorem ensureDirectoriesUpTo_refused {fuel : Nat} {e : FileError}
    (refused : (t.ensureDirectoriesUpTo path (fuel + 1)).2 = some e) :
    (∃ t' : FileTree, (t'.ensureDirectory path).2 = some e ∧ e.cause ≠ .missing ∧
      (t.ensureDirectoriesUpTo path (fuel + 1)).1 = (t'.ensureDirectory path).1) ∨
    (t.locate path = .error .missing ∧
      t.ensureDirectoriesUpTo path (fuel + 1) = t.ensureDirectoriesUpTo path.parent fuel) := by
  rw [ensureDirectoriesUpTo] at refused ⊢
  rcases first : t.ensureDirectory path with ⟨t₁, refusal⟩
  rw [first] at refused
  cases refusal with
  | none => cases refused
  | some e₁ =>
    have refused₁ : (t.ensureDirectory path).2 = some e₁ := by rw [first]
    obtain ⟨same, -⟩ := ensureDirectory_refused refused₁
    obtain rfl : t₁ = t := congrArg Prod.fst (first.symm.trans same)
    dsimp only at refused ⊢
    by_cases up : e₁.cause = .missing ∧ path.parts ≠ []
    · rw [if_pos up] at refused ⊢
      have made : (t₁.ensureDirectoriesUpTo path.parent fuel).2 = none →
          (t₁.ensureDirectoriesUpTo path.parent fuel).1.isDirectory path.parent :=
        isDirectory_ensureDirectoriesUpTo
      rcases upward : t₁.ensureDirectoriesUpTo path.parent fuel with ⟨t₂, refusal⟩
      rw [upward] at refused made
      cases refusal with
      | none => exact Or.inl ⟨t₂, refused, ne_missing_of_parent (made rfl) refused, rfl⟩
      | some e₂ => exact Or.inr ⟨locate_of_missing refused₁ up.1, rfl⟩
    · rw [if_neg up] at refused ⊢
      obtain rfl : e₁ = e := Option.some.inj refused
      refine Or.inl ⟨t₁, refused₁, fun missing => up ⟨missing, fun start => ?_⟩, by rw [first]⟩
      exact ne_missing_of_start start refused₁ missing

/-- What the refusal of a directory leaves behind: the path is blocked from then on. Unless its own
refusal was told, it was the one of a path above it. -/
theorem blocked_of_ensureDirectoriesUpTo (fuel : Nat) {t : FileTree} {path : Path}
    (enough : path.parts.length ≤ fuel) {e : FileError}
    (refused : (t.ensureDirectoriesUpTo path fuel).2 = some e) :
    ∃ cause, (t.ensureDirectoriesUpTo path fuel).1.Blocked path cause ∧
      (e = ⟨cause, path⟩ ∨
        (e.path.Above path ∧ (cause = .notDirectory ∨ cause = .nameTooLong))) := by
  induction fuel generalizing path e with
  | zero =>
    have start : path.parts = [] := List.length_eq_zero_iff.mp (Nat.le_zero.mp enough)
    obtain ⟨blocked, named⟩ := blocked_of_refused refused (ne_missing_of_start start refused)
    exact ⟨e.cause, blocked, Or.inl named⟩
  | succ fuel ih =>
    rcases ensureDirectoriesUpTo_refused refused with ⟨t', refused', final, after⟩ | ⟨lost, up⟩
    · obtain ⟨blocked, named⟩ := blocked_of_refused refused' final
      rw [after]
      exact ⟨e.cause, blocked, Or.inl named⟩
    · obtain ⟨named, short, below⟩ := fits_of_missing lost
      have enough' : path.parent.parts.length ≤ fuel := by
        rw [Path.parent, List.length_dropLast]
        omega
      rw [up] at refused ⊢
      obtain ⟨cause, blocked, told⟩ := ih enough' refused
      obtain ⟨cause', blocked', known⟩ := blocked.below named short below
      refine ⟨cause', blocked', Or.inr ⟨?_, known⟩⟩
      rcases told with rfl | ⟨higher, -⟩
      · exact Path.above_parent below
      · exact higher.of_parent

theorem blocked_of_ensureDirectories {e : FileError}
    (refused : (t.ensureDirectories path).2 = some e) :
    ∃ cause, (t.ensureDirectories path).1.Blocked path cause ∧
      (e = ⟨cause, path⟩ ∨
        (e.path.Above path ∧ (cause = .notDirectory ∨ cause = .nameTooLong))) :=
  blocked_of_ensureDirectoriesUpTo _ (Nat.le_refl _) refused

end FileTree

end DesignTokens
