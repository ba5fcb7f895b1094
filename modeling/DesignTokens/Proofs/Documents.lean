import DesignTokens.Proofs.ReadPath

/-!
# The document of a build

A build reads the document of its store afresh; without a store it takes the one that is shared for
the path in the settings. If there is a document to be read, the build comes to what storing its
artifacts comes to, and otherwise it gives no report and changes no file.
-/

namespace DesignTokens

namespace World

variable {w : World} {s : Settings} {store : Option Handle} {doc : Document}

/-- The path that a build reads. -/
def documentPath (w : World) (s : Settings) (store : Option Handle) : Path :=
  match store with
  | some h => (w.shelf.store h).path
  | none =>
    let shared := w.shelf.share w.files s.tokens
    (shared.1.store shared.2).path

/-- A build reads a document. -/
structure Reads (w : World) (s : Settings) (store : Option Handle) (doc : Document) : Prop where
  named : store = none → s.tokens.hasNul = false
  loads : w.files.load (w.documentPath s store) = .ok doc

theorem share_of_named {path : Path} (named : path.hasNul = false) :
    w.share path =
      ⟨{ w with shelf := (w.shelf.share w.files path).1 }, .ok (w.shelf.share w.files path).2, []⟩ := by
  rw [share, named, if_neg Bool.false_ne_true]

theorem buildFrom_of_loaded {h : Handle}
    (loaded : w.files.load (w.shelf.store h).path = .ok doc) (output : Path) :
    (w.buildFrom h output).result =
        (writeArtifacts w.files (compile builtin doc) output).result ∧
      (w.buildFrom h output).world.files =
        (writeArtifacts w.files (compile builtin doc) output).files := by
  have read : (w.access h Store.reload).result = .ok doc := by
    rw [access, Store.result_reload, loaded]
    rfl
  rw [buildFrom, Outcome.andThen, read]
  exact ⟨rfl, rfl⟩

theorem build_of_reads (reads : w.Reads s store doc) :
    (w.build s store).result = (writeArtifacts w.files (compile builtin doc) s.output).result ∧
      (w.build s store).world.files =
        (writeArtifacts w.files (compile builtin doc) s.output).files := by
  obtain ⟨named, loads⟩ := reads
  cases store with
  | some h => exact buildFrom_of_loaded loads s.output
  | none =>
    rw [build, share_of_named (named rfl), Outcome.andThen]
    exact buildFrom_of_loaded
      (w := { w with shelf := (w.shelf.share w.files s.tokens).1 }) loads s.output

theorem buildFrom_of_unread {h : Handle} {e : LoadError}
    (failed : w.files.load (w.shelf.store h).path = .error e) (output : Path) :
    (w.buildFrom h output).result = .error (.load e) ∧
      (w.buildFrom h output).world.files = w.files := by
  have read : (w.access h Store.reload).result = .error (.load e) := by
    rw [access, Store.result_reload, failed]
    rfl
  rw [buildFrom, Outcome.andThen, read]
  exact ⟨rfl, rfl⟩

/-- The document that a build reads. -/
def document? (w : World) (s : Settings) (store : Option Handle) : Option Document :=
  if store = none ∧ s.tokens.hasNul then none
  else (w.files.load (w.documentPath s store)).toOption

theorem document?_eq_some_iff : w.document? s store = some doc ↔ w.Reads s store doc := by
  rw [document?]
  constructor
  · intro found
    split at found
    case isTrue => cases found
    case isFalse named =>
      refine ⟨fun none => ?_, ?_⟩
      · simpa [none] using named
      · cases loads : w.files.load (w.documentPath s store) with
        | error e =>
          rw [loads] at found
          cases found
        | ok doc' =>
          rw [loads] at found
          exact congrArg Except.ok (Option.some.inj found)
  · rintro ⟨named, loads⟩
    rw [if_neg, loads]
    · rfl
    · rintro ⟨none, nul⟩
      rw [named none] at nul
      cases nul

/-- What a build comes to: it stores the artifacts of the document that it reads, or it reads none,
gives no report and changes no file. -/
inductive Produces (w : World) (s : Settings) (store : Option Handle) : Prop
  | written (doc : Document) (reads : w.Reads s store doc)
    (result : (w.build s store).result =
      (writeArtifacts w.files (compile builtin doc) s.output).result)
    (files : (w.build s store).world.files =
      (writeArtifacts w.files (compile builtin doc) s.output).files)
  | unread (unread : w.document? s store = none) (refused : (w.build s store).result.toOption = none)
    (files : (w.build s store).world.files = w.files)

variable (w s store)

theorem produces_build : w.Produces s store := by
  cases found : w.document? s store with
  | some doc =>
    have reads := document?_eq_some_iff.mp found
    exact .written doc reads (build_of_reads reads).1 (build_of_reads reads).2
  | none =>
    have unread := found
    rw [document?] at unread
    cases store with
    | some h =>
      rw [if_neg (fun h => nomatch h.1)] at unread
      cases loads : w.files.load (w.shelf.store h).path with
      | ok doc =>
        rw [documentPath, loads] at unread
        cases unread
      | error e =>
        obtain ⟨result, files⟩ := buildFrom_of_unread loads s.output
        exact .unread found (by rw [build, result]; rfl) files
    | none =>
      cases nul : s.tokens.hasNul with
      | true =>
        have unshared : w.share s.tokens = ⟨w, .error (.file ⟨.nul, s.tokens⟩), []⟩ := by
          rw [share, if_pos nul]
        exact .unread found (by rw [build, unshared]; rfl) (by rw [build, unshared]; rfl)
      | false =>
        rw [if_neg (fun h => by simp [nul] at h)] at unread
        cases loads : w.files.load (w.documentPath s none) with
        | ok doc =>
          rw [loads] at unread
          cases unread
        | error e =>
          obtain ⟨result, files⟩ := buildFrom_of_unread
            (w := { w with shelf := (w.shelf.share w.files s.tokens).1 }) loads s.output
          exact .unread found (by rw [build, share_of_named nul, Outcome.andThen, result]; rfl)
            (by rw [build, share_of_named nul, Outcome.andThen, files])

variable {w s store}

theorem reads_of_report {r : Report} (built : (w.build s store).result = .ok r) :
    ∃ doc, w.Reads s store doc := by
  cases w.produces_build s store with
  | written doc reads result files => exact ⟨doc, reads⟩
  | unread unread refused files =>
    rw [built] at refused
    cases refused

end World

end DesignTokens
