import DesignTokens.Proofs.Writing

/-!
# Where the writing of artifacts stops

What becomes of an artifact depends on the artifact and on the files that are there when the output
directory has been made, not on other artifacts. Writing stops at the first artifact whose file can
be opened and whose text has no octets. Those in front of it are stored as if they were alone, its
own file is left empty, and those behind it have not been touched.
-/

namespace DesignTokens

namespace Artifact

section
variable (denied : Option ThemeError) (files : FileTree) (output : Path) (a : Artifact)

/-- What a report says of an artifact when its directory is denied or these files are there: the
artifact as it is, or why its text could not be stored. -/
def verdict : Artifact :=
  if a.success then
    match denied with
    | some e => a.unstored e
    | none =>
      match (files.write (a.pathIn output) a.octets).2 with
      | some e => a.unstored (artifactError (a.pathIn output) e)
      | none => a
  else a

@[simp] theorem verdict_name : (a.verdict denied files output).name = a.name := by
  simp only [verdict]
  split
  · split
    · rfl
    · split <;> rfl
  · rfl

@[simp] theorem verdict_pathIn : (a.verdict denied files output).pathIn output = a.pathIn output := by
  rw [pathIn_eq, pathIn_eq, verdict_name]

end

variable {denied : Option ThemeError} {files : FileTree} {output : Path} {a : Artifact}

theorem verdict_of_failure (failed : a.success = false) : a.verdict denied files output = a := by
  simp [verdict, failed]

theorem verdict_of_denied {e : ThemeError} (success : a.success) :
    a.verdict (some e) files output = a.unstored e := by
  simp [verdict, success]

theorem verdict_of_refused {e : FileError} (success : a.success)
    (refused : (files.write (a.pathIn output) a.octets).2 = some e) :
    a.verdict none files output = a.unstored (artifactError (a.pathIn output) e) := by
  simp [verdict, success, refused]

theorem verdict_of_stored (written : (files.write (a.pathIn output) a.octets).2 = none) :
    a.verdict none files output = a := by
  simp [verdict, written]

/-- A verdict is a success just if the artifact is one and nothing keeps it from being stored. -/
theorem verdict_success : (a.verdict denied files output).success ↔
    a.success ∧ denied = none ∧ (files.write (a.pathIn output) a.octets).2 = none := by
  cases hs : a.success with
  | false => simp [verdict_of_failure hs, hs]
  | true =>
    cases denied with
    | some e => simp [verdict_of_denied hs, unstored, success]
    | none =>
      cases hw : (files.write (a.pathIn output) a.octets).2 with
      | some e => simp [verdict_of_refused hs hw, unstored, success]
      | none => simp [verdict_of_stored hw, hs]

theorem verdict_of_success (success : (a.verdict denied files output).success) :
    a.verdict denied files output = a := by
  obtain ⟨-, rfl, written⟩ := verdict_success.mp success
  exact verdict_of_stored written

theorem verdict_congr {files' : FileTree}
    (same : denied = none → (files'.write (a.pathIn output) a.octets).2 =
      (files.write (a.pathIn output) a.octets).2) :
    a.verdict denied files' output = a.verdict denied files output := by
  cases denied with
  | some e => rfl
  | none => rw [verdict, verdict, same rfl]

end Artifact

/-- Why writing stops at an artifact: its file can be opened, and its text has no octets. -/
def Artifact.stops? (denied : Option ThemeError) (files : FileTree) (output : Path) (a : Artifact) :
    Option Text.EncodingFault :=
  if (a.verdict denied files output).success then a.fault? else none

/-- What a text without octets makes writing raise. -/
def Problem.ofFault (f : Text.EncodingFault) : Problem := .encoding f.message

namespace Writing

variable {denied : Option ThemeError} {base : FileTree} {output : Path} {w : Writing}
  {rest : List Artifact}

theorem artifacts_add {a : Artifact} (going : (w.add denied a).givenUp = false) :
    (w.add denied a).report.artifacts =
      w.report.artifacts ++ [a.verdict denied w.files w.report.output] := by
  have before := going_of_add going
  cases hs : a.success with
  | false =>
    rw [add_failed before hs, Artifact.verdict_of_failure hs]
    rfl
  | true =>
    cases denied with
    | some e =>
      rw [add_denied before hs, Artifact.verdict_of_denied hs]
      rfl
    | none =>
      rcases hw : w.files.write (a.pathIn w.report.output) a.octets with ⟨files, refusal⟩
      have refused := congrArg Prod.snd hw
      cases refusal with
      | none =>
        cases fault : a.fault? with
        | none => rw [add_stored before hs fault hw, Artifact.verdict_of_stored refused]
        | some f =>
          rw [add_emptied before hs fault hw] at going
          cases going
      | some e =>
        rw [add_refused before hs hw] at going ⊢
        by_cases hc : e.cause = .nul
        · rw [if_pos hc] at going
          cases going
        · rw [if_neg hc, Artifact.verdict_of_refused hs refused]

/-- One artifact more makes writing stop just if its text has no octets and its file is open. -/
theorem stopped_add (denied : Option ThemeError) {a : Artifact} (going : w.givenUp = false)
    (named : (a.pathIn w.report.output).hasNul = false) :
    (w.add denied a).stopped =
      (a.stops? denied w.files w.report.output).map Problem.ofFault := by
  have unstopped := givenUp_eq_false_iff.mp going
  cases hs : a.success with
  | false =>
    rw [add_failed going hs, Artifact.stops?, Artifact.verdict_of_failure hs, hs]
    exact unstopped
  | true =>
    cases denied with
    | some e =>
      rw [add_denied going hs, Artifact.stops?, Artifact.verdict_of_denied hs]
      exact unstopped
    | none =>
      rcases hw : w.files.write (a.pathIn w.report.output) a.octets with ⟨files, refusal⟩
      have refused := congrArg Prod.snd hw
      cases refusal with
      | none =>
        rw [Artifact.stops?, Artifact.verdict_of_stored refused, if_pos hs]
        cases fault : a.fault? with
        | none => rw [add_stored going hs fault hw, Option.map_none]
        | some f =>
          rw [add_emptied going hs fault hw]
          rfl
      | some e =>
        have cause : e.cause ≠ .nul := fun nul => by
          rw [FileTree.hasNul_of_write refused nul] at named
          cases named
        rw [add_refused going hs hw, if_neg cause, Artifact.stops?,
          Artifact.verdict_of_refused hs refused]
        rfl

/-- What has been stored so far does not matter for an artifact with a file of its own. -/
theorem refusal_of_frame (frame : Frame denied base output w) (there : base.isDirectory output)
    {a : Artifact} (valid : FileName a.name)
    (free : ¬ w.report.StoresAt base (base.resolve (a.pathIn output))) :
    (w.files.write (a.pathIn output) a.octets).2 =
      (base.write (a.pathIn output) a.octets).2 := by
  have anchors := frame.confined.anchors
  have there' := FileTree.isDirectory_of_keeps anchors frame.confined.keeps there
  exact FileTree.refusal_write_congr (locate_artifactPath valid anchors there there')
    (frame.others free) a.octets

/-- Artifacts that are still to be stored have files of their own, in whose places nothing has been
stored yet. -/
structure Ahead (denied : Option ThemeError) (base : FileTree) (output : Path) (w : Writing)
    (rest : List Artifact) : Prop where
  frame : Frame denied base output w
  made : denied = none → base.isDirectory output
  valid : ∀ a ∈ rest, FileName a.name
  apart : rest.Pairwise (Artifact.Apart base output)
  free : ∀ a ∈ rest, ¬ w.report.StoresAt base (base.resolve (a.pathIn output))

namespace Ahead

theorem verdict {a : Artifact} (ahead : Ahead denied base output w (a :: rest)) :
    a.verdict denied w.files w.report.output = a.verdict denied base output := by
  rw [ahead.frame.directory]
  exact Artifact.verdict_congr fun allowed => refusal_of_frame ahead.frame (ahead.made allowed)
    (ahead.valid a List.mem_cons_self) (ahead.free a List.mem_cons_self)

theorem add (cls : ∀ e, denied = some e → e.cls = .write) {a : Artifact}
    (ahead : Ahead denied base output w (a :: rest)) (going : (w.add denied a).givenUp = false) :
    Ahead denied base output (w.add denied a) rest := by
  have frame := ahead.frame.add (adds_of_going cls going)
  obtain ⟨others, apart⟩ := List.pairwise_cons.mp ahead.apart
  refine ⟨frame, ahead.made, fun b hb => ahead.valid b (List.mem_cons_of_mem _ hb), apart, ?_⟩
  rintro b hb ⟨c, hc, success, same⟩
  rw [frame.directory] at same
  rw [artifacts_add going, ahead.verdict] at hc
  rcases List.mem_append.mp hc with hc | hc
  · refine ahead.free b (List.mem_cons_of_mem _ hb) ⟨c, hc, success, ?_⟩
    rwa [ahead.frame.directory]
  · rw [List.mem_singleton.mp hc, Artifact.verdict_pathIn] at same
    exact others b hb same

theorem foldl (cls : ∀ e, denied = some e → e.cls = .write) {done : List Artifact}
    (ahead : Ahead denied base output w (done ++ rest))
    (going : (done.foldl (Writing.add denied) w).givenUp = false) :
    Ahead denied base output (done.foldl (Writing.add denied) w) rest := by
  induction done generalizing w with
  | nil => exact ahead
  | cons a done ih => exact ih (ahead.add cls (going_of_foldl going)) going

/-- The report gives each artifact with what it says of it. -/
theorem artifacts_foldl (cls : ∀ e, denied = some e → e.cls = .write)
    (ahead : Ahead denied base output w rest)
    (going : (rest.foldl (Writing.add denied) w).givenUp = false) :
    (rest.foldl (Writing.add denied) w).report.artifacts =
      w.report.artifacts ++ rest.map (Artifact.verdict denied base output) := by
  induction rest generalizing w with
  | nil => rw [List.foldl_nil, List.map_nil, List.append_nil]
  | cons a rest ih =>
    have going' : (w.add denied a).givenUp = false := going_of_foldl going
    rw [List.foldl_cons, ih (ahead.add cls going') going, artifacts_add going', ahead.verdict,
      List.append_assoc]
    rfl

/-- Writing stops at the first artifact that makes it stop. -/
theorem stopped_foldl (cls : ∀ e, denied = some e → e.cls = .write)
    (ahead : Ahead denied base output w rest) (nul : output.hasNul = false)
    (going : w.givenUp = false) :
    (rest.foldl (Writing.add denied) w).stopped =
      (rest.findSome? (Artifact.stops? denied base output)).map Problem.ofFault := by
  induction rest generalizing w with
  | nil => exact givenUp_eq_false_iff.mp going
  | cons a rest ih =>
    have named : (a.pathIn w.report.output).hasNul = false := by
      rw [ahead.frame.directory, a.pathIn_eq, hasNul_artifactPath (ahead.valid a List.mem_cons_self),
        nul]
    have stopped := stopped_add denied going named
    rw [Artifact.stops?, ahead.verdict, ← Artifact.stops?] at stopped
    rw [List.foldl_cons, List.findSome?_cons]
    cases stops : a.stops? denied base output with
    | none =>
      rw [stops, Option.map_none, ← givenUp_eq_false_iff] at stopped
      exact ih (ahead.add cls stopped) stopped
    | some f =>
      rw [stops] at stopped
      rw [foldl_add_givenUp (by rw [givenUp, stopped]; rfl), stopped]

end Ahead

end Writing

/-- What a report says of an artifact that is to be stored in an output directory. -/
def Artifact.verdictIn (files : FileTree) (output : Path) : Artifact → Artifact :=
  verdict (Writing.denial files output) (files.ensureDirectories output).1 output

@[simp] theorem Artifact.verdictIn_name (files : FileTree) (output : Path) (a : Artifact) :
    (a.verdictIn files output).name = a.name :=
  verdict_name _ _ _ a

theorem Artifact.verdictIn_of_success {files : FileTree} {output : Path} {a : Artifact}
    (success : (a.verdictIn files output).success) : a.verdictIn files output = a :=
  verdict_of_success success

/-- Why writing stops at an artifact that is to be stored in an output directory. -/
def Artifact.stopsIn? (files : FileTree) (output : Path) : Artifact → Option Text.EncodingFault :=
  stops? (Writing.denial files output) (files.ensureDirectories output).1 output

theorem Artifact.stopsIn?_eq_some {files : FileTree} {output : Path} {a : Artifact}
    {f : Text.EncodingFault} (stops : a.stopsIn? files output = some f) :
    (a.verdictIn files output).success ∧ a.success ∧ a.fault? = some f := by
  rw [stopsIn?, stops?] at stops
  split at stops
  case isFalse => cases stops
  case isTrue opens => exact ⟨opens, (verdict_success.mp opens).1, stops⟩

/-- Writing stopped at an artifact: those in front of it are stored as if they were alone, and its
file was opened for a text that has no octets. -/
structure Writing.StoppedAt (files : FileTree) (output : Path) (before : List Artifact)
    (a : Artifact) (f : Text.EncodingFault) (w : Writing) : Prop where
  done : (writeArtifacts files before output).givenUp = false
  stops : a.stopsIn? files output = some f
  opened : ((writeArtifacts files before output).files.write (a.pathIn output) []).2 = none
  files : w.files = ((writeArtifacts files before output).files.write (a.pathIn output) []).1

theorem Writing.StoppedAt.read {files : FileTree} {output : Path} {before : List Artifact}
    {a : Artifact} {f : Text.EncodingFault} {w : Writing}
    (stopped : w.StoppedAt files output before a f) : w.files.read (a.pathIn output) = .ok [] := by
  rw [stopped.files]
  exact FileTree.read_write_self stopped.opened

section
variable {registry : Registry} (distinct : (registry.map Prod.fst).Nodup)
  (valid : ∀ name ∈ registry.map Prod.fst, FileName name) (files : FileTree) (doc : Document)
  {output : Path}

include distinct valid

variable (output) in
theorem ahead_compile : Writing.Ahead (Writing.denial files output)
    (files.ensureDirectories output).1 output (writeArtifacts files [] output)
    (compile registry doc) := by
  refine ⟨frame_nil files output, fun allowed => ?_, fun a ha => ?_,
    apart_compile distinct valid _ output doc, ?_⟩
  · exact FileTree.isDirectory_ensureDirectories (Option.map_eq_none_iff.mp allowed)
  · exact valid _ (name_of_mem_compile ha)
  · rintro a - ⟨b, hb, -⟩
    rw [(writeArtifacts_nil files output).2] at hb
    cases hb

/-- Writing stops just if some artifact makes it stop, and then for the first that does. -/
theorem stopped_compile (nul : output.hasNul = false) :
    (writeArtifacts files (compile registry doc) output).stopped =
      ((compile registry doc).findSome? (Artifact.stopsIn? files output)).map Problem.ofFault := by
  rw [writeArtifacts_eq_foldl]
  exact (ahead_compile distinct valid files doc output).stopped_foldl Writing.cls_denial nul
    (going_nil nul files)

theorem going_compile (nul : output.hasNul = false)
    (unstopped : (compile registry doc).findSome? (Artifact.stopsIn? files output) = none) :
    (writeArtifacts files (compile registry doc) output).givenUp = false := by
  rw [Writing.givenUp_eq_false_iff, stopped_compile distinct valid files doc nul, unstopped]
  rfl

/-- What a report says of one artifact does not depend on the others. -/
theorem artifacts_writeArtifacts
    (going : (writeArtifacts files (compile registry doc) output).givenUp = false) :
    (writeArtifacts files (compile registry doc) output).report.artifacts =
      (compile registry doc).map (Artifact.verdictIn files output) := by
  have empty := (writeArtifacts_nil files output).2
  rw [writeArtifacts_eq_foldl] at going ⊢
  rw [(ahead_compile distinct valid files doc output).artifacts_foldl Writing.cls_denial going, empty]
  rfl

variable (output) in
/-- What storing comes to: a report, unless a name or a text makes writing stop. -/
theorem result_compile :
    (writeArtifacts files (compile registry doc) output).result =
      if output.hasNul then .error (.file ⟨.nul, output⟩)
      else match (compile registry doc).findSome? (Artifact.stopsIn? files output) with
        | none => .ok (writeArtifacts files (compile registry doc) output).report
        | some f => .error (.ofFault f) := by
  cases nul : output.hasNul with
  | true => exact (writeArtifacts_of_hasNul files _ nul).1
  | false =>
    rw [Writing.result, stopped_compile distinct valid files doc nul, if_neg Bool.false_ne_true]
    cases (compile registry doc).findSome? (Artifact.stopsIn? files output) <;> rfl

theorem unstopped_of_reported {r : Report}
    (reported : (writeArtifacts files (compile registry doc) output).result = .ok r) :
    output.hasNul = false ∧
      (compile registry doc).findSome? (Artifact.stopsIn? files output) = none := by
  rw [result_compile distinct valid] at reported
  split at reported
  case isTrue => cases reported
  case isFalse named =>
    split at reported
    case h_1 unstopped => exact ⟨by simpa using named, unstopped⟩
    case h_2 => cases reported

/-- Where writing stops, the artifacts in front are those of the generators in front. -/
theorem exists_stoppedAt (nul : output.hasNul = false) {f : Text.EncodingFault}
    (stops : (compile registry doc).findSome? (Artifact.stopsIn? files output) = some f) :
    ∃ front e back, registry = front ++ e :: back ∧
      (compile front doc).findSome? (Artifact.stopsIn? files output) = none ∧
      (writeArtifacts files (compile registry doc) output).StoppedAt files output
        (compile front doc) (.ofOutput e.1 (e.2 doc)) f := by
  obtain ⟨before, a, after, made, here, none⟩ := List.findSome?_eq_some_iff.mp stops
  obtain ⟨front, back', rfl, rfl, rest⟩ := List.map_eq_append_iff.mp made
  obtain ⟨e, back, rfl, rfl, rfl⟩ := List.map_eq_cons_iff.mp rest
  have unstopped : (compile front doc).findSome? (Artifact.stopsIn? files output) = .none :=
    List.findSome?_eq_none_iff.mpr none
  refine ⟨front, e, back, rfl, unstopped, ?_⟩
  have ahead := ahead_compile distinct valid files doc output
  rw [compile_append] at ahead
  rw [List.map_append, List.nodup_append] at distinct
  have done : (writeArtifacts files (compile front doc) output).givenUp = false :=
    going_compile distinct.1 (fun name hn => valid name (by simp [List.mem_map.mp hn])) files doc nul
      unstopped
  have written : writeArtifacts files (compile (front ++ e :: back) doc) output =
      (compile back doc).foldl (Writing.add (Writing.denial files output))
        ((writeArtifacts files (compile front doc) output).add (Writing.denial files output)
          (.ofOutput e.1 (e.2 doc))) := by
    rw [writeArtifacts_eq_foldl, compile_append, List.foldl_append, ← writeArtifacts_eq_foldl]
    rfl
  rw [writeArtifacts_eq_foldl] at done
  have next := ahead.foldl Writing.cls_denial done
  rw [← writeArtifacts_eq_foldl] at next done
  obtain ⟨opens, -, fault⟩ := Artifact.stopsIn?_eq_some here
  rw [Artifact.verdictIn, ← next.verdict, Artifact.verdict_success] at opens
  obtain ⟨success, allowed, opened⟩ := opens
  have emptied := Writing.add_emptied done success fault (Prod.ext rfl opened)
  rw [Artifact.octets, Text.octets_of_fault fault, next.frame.directory] at emptied opened
  rw [allowed, emptied, Writing.foldl_add_givenUp rfl] at written
  exact ⟨done, here, opened, congrArg Writing.files written⟩

end

end DesignTokens
