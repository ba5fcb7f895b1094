import DesignTokens.Proofs.Documents
import DesignTokens.Proofs.Stopping

/-!
# Which files storing opens

A file that is opened for an artifact holds the octets of its text afterwards, or nothing if the text
has none. If there is a report, these are the artifacts that it records as stored, and if storing
stops, there is also the one at which it stops. Nothing else stands in the place of another artifact
than what was there when the output directory had been made.
-/

namespace DesignTokens

theorem Compilation.get?_of_mem {c : Compilation} (distinct : (c.map Artifact.name).Nodup)
    {a : Artifact} (ha : a ∈ c) : c.get? a.name = some a := by
  cases found : c.get? a.name with
  | none =>
    have other := List.find?_eq_none.mp found a ha
    simp at other
  | some b =>
    obtain ⟨hb, named⟩ := Compilation.mem_of_get? found
    rw [List.inj_on_of_nodup_map distinct hb ha named]

/-- The artifact that a report records as stored under a name. -/
def Report.stored? (r : Report) (name : String) : Option Artifact :=
  (Compilation.get? r.artifacts name).filter Artifact.success

theorem Report.stored?_eq_some {r : Report} {name : String} {a : Artifact}
    (stored : r.stored? name = some a) : a ∈ r.artifacts ∧ a.name = name ∧ a.success := by
  obtain ⟨found, success⟩ := Option.filter_eq_some_iff.mp stored
  obtain ⟨mem, named⟩ := Compilation.mem_of_get? found
  exact ⟨mem, named, success⟩

section
variable {registry : Registry} {doc : Document}

/-- An artifact that a generator made has its text. -/
theorem content_of_recorded {done : List Artifact}
    (recorded : List.Forall₂ Artifact.Recorded (compile registry doc) done) {b : Artifact}
    (hb : b ∈ done) (success : b.success) : ∃ text, b.content = some text := by
  obtain ⟨a, ha, hab⟩ := Artifact.exists_recorded recorded hb
  obtain ⟨g, -, rfl⟩ := List.mem_map.mp ha
  cases hg : g.2 doc with
  | ok text =>
    rw [hg] at hab
    exact ⟨text, hab.content⟩
  | error failure =>
    rw [hg] at hab
    rw [hab.of_failure rfl] at success
    cases success

variable (distinct : (registry.map Prod.fst).Nodup)
  (valid : ∀ name ∈ registry.map Prod.fst, FileName name) {files : FileTree} {output : Path}
  {r : Report} (reported : (writeArtifacts files (compile registry doc) output).result = .ok r)
  {name : String}

include distinct valid reported

/-- An artifact that is recorded as stored can be read. -/
theorem read_of_stored {a : Artifact} (stored : r.stored? name = some a) :
    (writeArtifacts files (compile registry doc) output).files.isDirectory output ∧
      ∃ text, a.content = some text ∧
        (writeArtifacts files (compile registry doc) output).files.Holds
          (artifactPath output name) text := by
  have frame := writeArtifacts_frame reported
  obtain ⟨rfl, sound⟩ :=
    writeArtifacts_sound (apart_compile distinct valid files output doc) reported
  obtain ⟨mem, rfl, success⟩ := Report.stored?_eq_some stored
  obtain ⟨text, content⟩ := content_of_recorded sound.recorded mem success
  have made : (files.ensureDirectories output).2 = none :=
    Option.map_eq_none_iff.mp (frame.allowed a mem success)
  have there := FileTree.isDirectory_ensureDirectories made
  have held := sound.stored a mem success
  rw [content] at held
  exact ⟨FileTree.isDirectory_of_keeps frame.confined.anchors frame.confined.keeps there, text,
    content, held⟩

/-- What stands in the place of an artifact that is not recorded as stored was there when the
directory had been made. -/
theorem shape_of_not_stored (named : FileName name) (none : r.stored? name = none) :
    (writeArtifacts files (compile registry doc) output).files.shape
        (files.resolve (artifactPath output name)) =
      (files.ensureDirectories output).1.shape (files.resolve (artifactPath output name)) := by
  have frame := writeArtifacts_frame reported
  obtain ⟨rfl, sound⟩ :=
    writeArtifacts_sound (apart_compile distinct valid files output doc) reported
  refine frame.others ?_
  rintro ⟨b, hb, success, same⟩
  have names := Artifact.names_of_recorded sound.recorded
  have known : b.name ∈ registry.map Prod.fst := by
    rw [← names_compile registry doc, ← names]
    exact List.mem_map_of_mem hb
  -- Files in the same place are files of the same artifact.
  rw [frame.directory, (files.sameAnchors_ensureDirectories output).resolve, b.pathIn_eq] at same
  have hname := name_eq_of_resolve (valid _ known) named same
  have distinct' : ((writeArtifacts files (compile registry doc) output).report.artifacts.map
      Artifact.name).Nodup := by
    rw [names, names_compile]
    exact distinct
  have found := Compilation.get?_of_mem distinct' hb
  rw [hname] at found
  rw [Report.stored?, found, Option.filter_some_pos success] at none
  cases none

omit name in
/-- A report tells the places where something has changed. -/
theorem confined_of_reported : FileTree.Confined (files.Passes output)
    (fun q => ∃ name ∈ registry.map Prod.fst, (r.stored? name).isSome ∧
      files.resolve (artifactPath output name) = q)
    files (writeArtifacts files (compile registry doc) output).files := by
  have frame := writeArtifacts_frame reported
  obtain ⟨rfl, sound⟩ :=
    writeArtifacts_sound (apart_compile distinct valid files output doc) reported
  have made : FileTree.Confined (files.Passes output) (fun q => ∃ name ∈ registry.map Prod.fst,
      ((writeArtifacts files (compile registry doc) output).report.stored? name).isSome ∧
        files.resolve (artifactPath output name) = q) files (files.ensureDirectories output).1 :=
    files.confined_ensureDirectories output
  refine made.trans (frame.confined.mono (fun _ none => none.elim) ?_)
  rintro q ⟨b, hb, success, here⟩
  have names : (writeArtifacts files (compile registry doc) output).report.artifacts.map
      Artifact.name = registry.map Prod.fst :=
    (Artifact.names_of_recorded sound.recorded).trans (names_compile registry doc)
  rw [← names] at distinct
  refine ⟨b.name, names ▸ List.mem_map_of_mem hb, ?_, ?_⟩
  · rw [Report.stored?, Compilation.get?_of_mem distinct hb, Option.filter_some_pos success]
    rfl
  · rw [← here, frame.directory, b.pathIn_eq, made.anchors.resolve]

end

/-- The artifact for which storing opens the file of a name. No file is opened behind an artifact
that makes storing stop. -/
def opened? (files : FileTree) (output : Path) (name : String) : List Artifact → Option Artifact
  | [] => none
  | a :: rest =>
    if a.name = name then if (a.verdictIn files output).success then some a else none
    else if (a.stopsIn? files output).isSome then none
    else opened? files output name rest

section
variable {files : FileTree} {output : Path} {name : String}

theorem opened?_append {c d : List Artifact}
    (unstopped : c.findSome? (Artifact.stopsIn? files output) = none) :
    opened? files output name (c ++ d) =
      if name ∈ c.map Artifact.name then opened? files output name c
      else opened? files output name d := by
  induction c with
  | nil => rfl
  | cons a c ih =>
    rw [List.findSome?_cons] at unstopped
    cases stops : a.stopsIn? files output with
    | some f =>
      rw [stops] at unstopped
      cases unstopped
    | none =>
      rw [stops] at unstopped
      by_cases here : a.name = name
      · simp [opened?, here]
      · have elsewhere : ¬ name = a.name := fun same => here same.symm
        simp [opened?, here, elsewhere, stops, ih unstopped]

theorem opened?_of_unmade {c : List Artifact} (unmade : (files.ensureDirectories output).2 ≠ none) :
    opened? files output name c = none := by
  have denied (a : Artifact) : (a.verdictIn files output).success = false := by
    rw [Bool.eq_false_iff]
    intro opens
    exact unmade (Option.map_eq_none_iff.mp (Artifact.verdict_success.mp opens).2.1)
  induction c with
  | nil => rfl
  | cons a c ih =>
    rw [opened?, denied, if_neg Bool.false_ne_true, Artifact.stopsIn?, Artifact.stops?,
      ← Artifact.verdictIn, denied, if_neg Bool.false_ne_true, ih]
    simp

theorem opened?_of_notMem {c : List Artifact} (absent : name ∉ c.map Artifact.name) :
    opened? files output name c = none := by
  induction c with
  | nil => rfl
  | cons a c ih =>
    rw [List.map_cons, List.mem_cons, not_or] at absent
    rw [opened?, if_neg fun same => absent.1 same.symm, ih absent.2, ite_self]

/-- What is opened without a stop is what a report records as stored. -/
theorem opened?_eq_filter {c : List Artifact}
    (unstopped : c.findSome? (Artifact.stopsIn? files output) = none) :
    opened? files output name c =
      (Compilation.get? (c.map (Artifact.verdictIn files output)) name).filter
        Artifact.success := by
  induction c with
  | nil => rfl
  | cons a c ih =>
    rw [List.findSome?_cons] at unstopped
    cases stops : a.stopsIn? files output with
    | some f =>
      rw [stops] at unstopped
      cases unstopped
    | none =>
      rw [stops] at unstopped
      rw [opened?, List.map_cons, Compilation.get?_cons, Artifact.verdictIn_name]
      by_cases here : a.name = name
      · rw [if_pos here, if_pos here]
        cases success : (a.verdictIn files output).success with
        | true =>
          rw [Option.filter_some_pos success, if_pos rfl, Artifact.verdictIn_of_success success]
        | false => rw [Option.filter_some_neg success, if_neg Bool.false_ne_true]
      · rw [if_neg here, if_neg here, stops, if_neg (by simp), ih unstopped]

end

section
variable {registry : Registry} (distinct : (registry.map Prod.fst).Nodup)
  (valid : ∀ name ∈ registry.map Prod.fst, FileName name) {files : FileTree} {output : Path}
  {doc : Document} {name : String}

include distinct valid

theorem opened?_compile {r : Report}
    (reported : (writeArtifacts files (compile registry doc) output).result = .ok r) :
    opened? files output name (compile registry doc) = r.stored? name := by
  have result := result_compile distinct valid files doc output
  rw [reported] at result
  split at result
  case isTrue => cases result
  case isFalse =>
    split at result
    case h_2 => cases result
    case h_1 unstopped =>
      rw [opened?_eq_filter unstopped, Except.ok.inj result, Report.stored?,
        artifacts_writeArtifacts distinct valid files doc (going_of_reported reported)]

/-- What writing that stopped opened: the files of the artifacts in front, and that of the artifact
at which it stopped. -/
theorem opened?_of_stopped {front back : Registry} {e : String × Generator} {r : Report}
    (cut : registry = front ++ e :: back)
    (unstopped : (compile front doc).findSome? (Artifact.stopsIn? files output) = none)
    {f : Text.EncodingFault} (stops : (Artifact.ofOutput e.1 (e.2 doc)).stopsIn? files output = some f)
    (reported : (writeArtifacts files (compile front doc) output).result = .ok r) :
    opened? files output name (compile registry doc) =
      if e.1 = name then some (.ofOutput e.1 (e.2 doc)) else r.stored? name := by
  subst cut
  rw [List.map_append, List.nodup_append] at distinct
  have valid' : ∀ name ∈ front.map Prod.fst, FileName name := fun name hn => by
    rw [List.map_append] at valid
    exact valid name (List.mem_append_left _ hn)
  have ahead : opened? files output name (compile front doc) = r.stored? name :=
    opened?_compile distinct.1 valid' reported
  have opens := (Artifact.stopsIn?_eq_some stops).1
  have here : compile (e :: back) doc = .ofOutput e.1 (e.2 doc) :: compile back doc := rfl
  rw [compile_append, opened?_append unstopped, names_compile, here, opened?,
    Artifact.ofOutput_name, stops, ahead]
  by_cases same : e.1 = name
  · have absent : name ∉ front.map Prod.fst := fun known =>
      distinct.2.2 name known e.1 (List.mem_cons_self) same.symm
    rw [if_neg absent, if_pos same, if_pos same, if_pos opens]
  · rw [if_neg same, if_neg same, if_pos Option.isSome_some]
    split
    case isTrue => rfl
    case isFalse unknown =>
      rw [← ahead, opened?_of_notMem]
      rwa [names_compile]

/-- What storing comes to, with what it opens: nothing at a name that no file can have, the artifacts
that the report records, or those in front of the artifact at which it stops and this one. -/
inductive Stores (registry : Registry) (doc : Document) (files : FileTree) (output : Path) : Prop
  | unnamed (opened : ∀ name, opened? files output name (compile registry doc) = none)
    (made : (files.ensureDirectories output).1 = files)
    (unchanged : (writeArtifacts files (compile registry doc) output).files = files)
  | reported (r : Report)
    (reported : (writeArtifacts files (compile registry doc) output).result = .ok r)
    (opened : ∀ name, opened? files output name (compile registry doc) = r.stored? name)
  | stopped (front back : Registry) (e : String × Generator) (f : Text.EncodingFault) (r : Report)
    (cut : registry = front ++ e :: back) (distinct : (front.map Prod.fst).Nodup)
    (valid : ∀ name ∈ front.map Prod.fst, FileName name) (valid' : FileName e.1)
    (reported : (writeArtifacts files (compile front doc) output).result = .ok r)
    (stopped : (writeArtifacts files (compile registry doc) output).StoppedAt files output
      (compile front doc) (.ofOutput e.1 (e.2 doc)) f)
    (opened : ∀ name, opened? files output name (compile registry doc) =
      if e.1 = name then some (.ofOutput e.1 (e.2 doc)) else r.stored? name)

variable (files output doc)

theorem stores_compile : Stores registry doc files output := by
  cases nul : output.hasNul with
  | true =>
    have refused := FileTree.ensureDirectories_of_hasNul files nul
    refine .unnamed (fun name => opened?_of_unmade fun made => ?_) ?_
      (writeArtifacts_of_hasNul files _ nul).2
    · rw [refused] at made
      cases made
    · rw [refused]
  | false =>
    cases stops : (compile registry doc).findSome? (Artifact.stopsIn? files output) with
    | none =>
      have reported := result_of_going (going_compile distinct valid files doc nul stops)
      exact .reported _ reported fun name => opened?_compile distinct valid reported
    | some f =>
      obtain ⟨front, e, back, cut, unstopped, stopped⟩ :=
        exists_stoppedAt distinct valid files doc nul stops
      have reported := result_of_going stopped.done
      have opened (name : String) : opened? files output name (compile registry doc) =
          if e.1 = name then some (.ofOutput e.1 (e.2 doc))
          else (writeArtifacts files (compile front doc) output).report.stored? name :=
        opened?_of_stopped distinct valid cut unstopped stopped.stops reported
      subst cut
      rw [List.map_append] at distinct valid
      exact .stopped front back e f _ rfl (List.nodup_append.mp distinct).1
        (fun name hn => valid name (List.mem_append_left _ hn))
        (valid _ (List.mem_append_right _ List.mem_cons_self)) reported stopped opened

variable {files output doc}

/-- A file that was opened holds the octets of the text that it was opened for. -/
theorem read_of_opened (named : FileName name) {a : Artifact}
    (opened : opened? files output name (compile registry doc) = some a) :
    (writeArtifacts files (compile registry doc) output).files.isDirectory output ∧
      ∃ text, a.content = some text ∧
        (writeArtifacts files (compile registry doc) output).files.read
          (artifactPath output name) = .ok text.octets := by
  cases stores_compile distinct valid files output doc with
  | unnamed unopened =>
    rw [unopened] at opened
    cases opened
  | reported r reported same =>
    rw [same] at opened
    obtain ⟨there, text, content, held⟩ := read_of_stored distinct valid reported opened
    exact ⟨there, text, content, held.read⟩
  | stopped front back e f r cut distinct valid valid' reported stopped same =>
    rw [same] at opened
    have read := stopped.read
    have path := (Artifact.ofOutput e.1 (e.2 doc)).pathIn_eq output
    rw [Artifact.ofOutput_name] at path
    rw [stopped.files, path] at read ⊢
    have reached (there : (writeArtifacts files (compile front doc) output).files.isDirectory output) :
        ((writeArtifacts files (compile front doc) output).files.write
          (artifactPath output e.1) []).1.isDirectory output :=
      FileTree.isDirectory_of_keeps (FileTree.sameAnchors_write _ _ _)
        (FileTree.keeps_write _ _ _) there
    by_cases here : e.1 = name
    · -- The file of the artifact is empty, and so are the octets of its text.
      rw [if_pos here] at opened
      obtain rfl := Option.some.inj opened
      subst here
      obtain ⟨opens, success, fault⟩ := Artifact.stopsIn?_eq_some stopped.stops
      have made := Option.map_eq_none_iff.mp (Artifact.verdict_success.mp opens).2.1
      have frame := writeArtifacts_frame reported
      have there := FileTree.isDirectory_of_keeps frame.confined.anchors frame.confined.keeps
        (FileTree.isDirectory_ensureDirectories made)
      have mem : Artifact.ofOutput e.1 (e.2 doc) ∈ compile registry doc :=
        List.mem_map.mpr ⟨e, cut ▸ List.mem_append_right _ List.mem_cons_self, rfl⟩
      obtain ⟨text, content⟩ := content_of_success mem success
      rw [Artifact.fault?, content, Option.getD_some] at fault
      exact ⟨reached there, text, content, read.trans (by rw [Text.octets_of_fault fault])⟩
    · rw [if_neg here] at opened
      obtain ⟨there, text, content, held⟩ := read_of_stored distinct valid reported opened
      refine ⟨reached there, text, content, FileTree.read_write_other (fun same => here ?_) held.read⟩
      exact (name_eq_of_resolve named valid' same).symm

/-- What stands in the place of an artifact whose file was not opened was there when the directory
had been made. -/
theorem shape_of_unopened (named : FileName name)
    (unopened : opened? files output name (compile registry doc) = none) :
    (writeArtifacts files (compile registry doc) output).files.shape
        (files.resolve (artifactPath output name)) =
      (files.ensureDirectories output).1.shape (files.resolve (artifactPath output name)) := by
  cases stores_compile distinct valid files output doc with
  | unnamed _ made unchanged => rw [made, unchanged]
  | reported r reported same =>
    rw [same] at unopened
    exact shape_of_not_stored distinct valid reported named unopened
  | stopped front back e f r cut distinct valid valid' reported stopped same =>
    have here : e.1 ≠ name := fun here => by
      rw [same, if_pos here] at unopened
      cases unopened
    rw [same, if_neg here] at unopened
    have anchors := (writeArtifacts_sound (apart_compile distinct valid files output doc)
      reported).2.anchors
    rw [stopped.files, ← shape_of_not_stored distinct valid reported named unopened,
      Artifact.pathIn_eq, Artifact.ofOutput_name]
    refine FileTree.shape_write_other (fun same => here ?_) _
    rw [anchors.resolve] at same
    exact (name_eq_of_resolve named valid' same).symm

/-- The places of the files that storing opens. -/
def OpensAt (registry : Registry) (doc : Document) (files : FileTree) (output : Path) (q : Place) :
    Prop :=
  ∃ name ∈ registry.map Prod.fst, (opened? files output name (compile registry doc)).isSome ∧
    files.resolve (artifactPath output name) = q

omit name in
/-- Storing changes the places of the files that it opens, and makes directories on the way to the
output directory. -/
theorem confined_writeArtifacts : FileTree.Confined (files.Passes output)
    (OpensAt registry doc files output) files
    (writeArtifacts files (compile registry doc) output).files := by
  cases stores_compile distinct valid files output doc with
  | unnamed _ _ unchanged =>
    rw [unchanged]
    exact FileTree.confined_refl _
  | reported r reported same =>
    refine (confined_of_reported distinct valid reported).mono (fun _ passes => passes) ?_
    rintro q ⟨name, known, stored, here⟩
    exact ⟨name, known, same name ▸ stored, here⟩
  | stopped front back e f r cut distinct valid valid' reported stopped same =>
    have ahead := confined_of_reported distinct valid reported
    rw [stopped.files]
    refine (ahead.mono (fun _ passes => passes) ?_).trans (FileTree.confined_write ?_ _)
    · rintro q ⟨name, known, stored, here⟩
      refine ⟨name, by rw [cut, List.map_append]; exact List.mem_append_left _ known, ?_, here⟩
      rw [same]
      split
      · rfl
      · exact stored
    · refine ⟨e.1, by simp [cut], by rw [same, if_pos rfl]; rfl, ?_⟩
      rw [ahead.anchors.resolve, Artifact.pathIn_eq, Artifact.ofOutput_name]

end

/-- The artifact for which a build opens the file of a name. -/
def World.opened? (w : World) (s : Settings) (store : Option Handle) (name : String) :
    Option Artifact :=
  (w.document? s store).bind fun doc =>
    DesignTokens.opened? w.files s.output name (compile builtin doc)

/-- The places of the files that a build opens. -/
def World.OpensAt (w : World) (s : Settings) (store : Option Handle) (q : Place) : Prop :=
  ∃ name ∈ builtin.map Prod.fst, (w.opened? s store name).isSome ∧
    w.files.resolve (artifactPath s.output name) = q

end DesignTokens
