import DesignTokens.Build
import DesignTokens.Proofs.FileTree
import DesignTokens.Proofs.Pieces

/-!
# The files of artifacts

An artifact whose name has no slash has its file right in the output directory. Artifacts of
different names have different files, so that storing one does not touch another.
-/

namespace DesignTokens

/-- A name that a file can have. -/
def FileName (name : String) : Prop := '/' ∉ name.toList ∧ '\x00' ∉ name.toList

instance : DecidablePred FileName := fun _ => inferInstanceAs (Decidable (_ ∧ _))

namespace Artifact

theorem filenameOf_cases (name : String) :
    filenameOf name = name ++ ".js" ∨ filenameOf name = name ++ ".css" := by
  rw [filenameOf]
  split
  · exact Or.inl rfl
  · exact Or.inr rfl

theorem filenameOf_injective : Function.Injective filenameOf := by
  intro name name' same
  rw [filenameOf, filenameOf] at same
  have apart (other : String) : "config.js" ≠ other ++ ".css" := fun h => by
    have ending : ".css".toList <:+ "config.js".toList :=
      ⟨other.toList, by rw [h, String.toList_append]⟩
    exact absurd ending (by decide)
  split at same
  · rename_i hname
    subst hname
    split at same
    · rename_i hname'
      exact hname'.symm
    · exact absurd same (apart name')
  · split at same
    · rename_i hname'
      subst hname'
      exact absurd same.symm (apart name)
    · rw [← String.toList_inj, String.toList_append, String.toList_append] at same
      exact String.toList_inj.mp (List.append_cancel_right same)

/-- Only the name itself can bring special characters into the name of a file. -/
theorem notMem_filenameOf {name : String} {c : Char} (free : c ∉ name.toList)
    (special : c ∉ ".js.css".toList) : c ∉ (filenameOf name).toList := by
  intro mem
  rcases filenameOf_cases name with h | h <;>
    rw [h, String.toList_append, List.mem_append] at mem
  · rcases mem with mem | mem
    · exact free mem
    · exact special (List.mem_of_mem_take (i := 3) mem)
  · rcases mem with mem | mem
    · exact free mem
    · exact special (List.mem_of_mem_drop (i := 3) mem)

theorem length_filenameOf (name : String) : 2 < (filenameOf name).toList.length := by
  rcases filenameOf_cases name with h | h <;> rw [h, String.toList_append, List.length_append]
  · exact Nat.lt_add_left _ (by decide)
  · exact Nat.lt_add_left _ (by decide)

end Artifact

theorem Path.anchorOf_of_notMem {s : String} (free : '/' ∉ s.toList) :
    Path.anchorOf s = .working := by
  rw [Path.anchorOf]
  split
  -- Every anchor but the last one is told by a slash in front.
  · rename_i h
    exact absurd (h ▸ List.mem_cons_self) free
  · rename_i h
    exact absurd (h ▸ List.mem_cons_self) free
  · rename_i h
    exact absurd (h ▸ List.mem_cons_self) free
  · rfl

/-- A text without slashes that is long enough not to consist of dots is one name. -/
theorem Path.ofString_of_notMem {s : String} (free : '/' ∉ s.toList) (long : 2 < s.toList.length) :
    Path.ofString s = ⟨.working, [s]⟩ := by
  have nonempty : s ≠ "" := fun h => by rw [h] at long; exact absurd long (by decide)
  have undotted : s ≠ "." := fun h => by rw [h] at long; exact absurd long (by decide)
  rw [Path.ofString, Path.anchorOf_of_notMem free, Path.namesOf,
    Text.pieces_of_notMem free, List.map_singleton, String.ofList_toList]
  simp [nonempty, undotted]

/-- The path under which an artifact is stored. -/
def artifactPath (output : Path) (name : String) : Path :=
  output ++ Path.ofString (Artifact.filenameOf name)

theorem Artifact.pathIn_eq (output : Path) (a : Artifact) :
    a.pathIn output = artifactPath output a.name :=
  rfl

section
variable {name : String} (valid : FileName name)
include valid

theorem artifactPath_eq (output : Path) :
    artifactPath output name = ⟨output.anchor, output.parts ++ [Artifact.filenameOf name]⟩ := by
  have joined : artifactPath output name =
      output.append (Path.ofString (Artifact.filenameOf name)) := rfl
  have free := Artifact.notMem_filenameOf valid.1 (by decide)
  rw [joined, Path.ofString_of_notMem free (Artifact.length_filenameOf name)]
  rfl

theorem resolve_artifactPath (files : FileTree) (output : Path) :
    files.resolve (artifactPath output name) =
      files.resolve output ++ [Artifact.filenameOf name] := by
  have named : Artifact.filenameOf name ≠ ".." := fun h => by
    have long := Artifact.length_filenameOf name
    rw [h] at long
    exact absurd long (by decide)
  rw [artifactPath_eq valid, FileTree.resolve, List.foldl_append, List.foldl_cons,
    List.foldl_nil, FileTree.step, if_neg named]
  rfl

theorem hasNul_artifactPath (output : Path) :
    (artifactPath output name).hasNul = output.hasNul := by
  have free := Artifact.notMem_filenameOf valid.2 (by decide)
  have named : (Artifact.filenameOf name).toList.contains '\x00' = false := by
    simpa using free
  rw [artifactPath_eq valid, Path.hasNul, Path.hasNul, List.any_append, List.any_cons,
    List.any_nil, named, Bool.or_false, Bool.or_false]

/-- Two trees with the same directory agree on where its files are. -/
theorem locate_artifactPath {t t' : FileTree} {output : Path} (anchors : FileTree.SameAnchors t t')
    (there : t.isDirectory output) (there' : t'.isDirectory output) :
    t'.locate (artifactPath output name) = t.locate (artifactPath output name) := by
  rw [artifactPath_eq valid]
  exact FileTree.locate_below (anchors.resolve output) there there' _

end

@[simp] theorem Artifact.ofOutput_name (name : String) (output : Except Failure Text) :
    (Artifact.ofOutput name output).name = name := by
  cases output <;> rfl

theorem names_compile (registry : Registry) (doc : Document) :
    (compile registry doc).map Artifact.name = registry.map Prod.fst := by
  simp [compile]

theorem compile_append (before after : Registry) (doc : Document) :
    compile (before ++ after) doc = compile before doc ++ compile after doc :=
  List.map_append

theorem name_of_mem_compile {registry : Registry} {doc : Document} {a : Artifact}
    (ha : a ∈ compile registry doc) : a.name ∈ registry.map Prod.fst := by
  rw [← names_compile registry doc]
  exact List.mem_map_of_mem ha

theorem content_of_success {registry : Registry} {doc : Document} {a : Artifact}
    (ha : a ∈ compile registry doc) (success : a.success) : ∃ text, a.content = some text := by
  obtain ⟨e, -, rfl⟩ := List.mem_map.mp ha
  cases made : e.2 doc with
  | ok text => exact ⟨text, rfl⟩
  | error f =>
    rw [made] at success
    cases success

/-- The artifacts have files of their own in an output directory. -/
def Artifact.Apart (files : FileTree) (output : Path) (a b : Artifact) : Prop :=
  files.resolve (a.pathIn output) ≠ files.resolve (b.pathIn output)

theorem name_eq_of_resolve {files : FileTree} {output : Path} {name name' : String}
    (valid : FileName name) (valid' : FileName name')
    (same : files.resolve (artifactPath output name) = files.resolve (artifactPath output name')) :
    name = name' := by
  rw [resolve_artifactPath valid, resolve_artifactPath valid'] at same
  exact Artifact.filenameOf_injective (List.singleton_inj.mp (List.append_cancel_left same))

theorem apart_compile {registry : Registry} (distinct : (registry.map Prod.fst).Nodup)
    (valid : ∀ name ∈ registry.map Prod.fst, FileName name) (files : FileTree) (output : Path)
    (doc : Document) : (compile registry doc).Pairwise (Artifact.Apart files output) := by
  rw [← names_compile registry doc] at distinct
  have pairs : (compile registry doc).Pairwise fun a b => a.name ≠ b.name :=
    List.pairwise_map.mp distinct
  refine pairs.imp_of_mem fun {a b} ha hb hne same => hne ?_
  exact name_eq_of_resolve (valid _ (name_of_mem_compile ha)) (valid _ (name_of_mem_compile hb)) same

theorem builtin_names_nodup : (builtin.map Prod.fst).Nodup := by
  decide

theorem fileName_builtin : ∀ name ∈ builtin.map Prod.fst, FileName name := by
  have valid : ∀ n ∈ ["base", "slidev", "reveal", "webslides", "config"], FileName n := by decide
  exact valid

theorem apart_compile_builtin (files : FileTree) (output : Path) (doc : Document) :
    (compile builtin doc).Pairwise (Artifact.Apart files output) :=
  apart_compile builtin_names_nodup fileName_builtin files output doc

end DesignTokens
