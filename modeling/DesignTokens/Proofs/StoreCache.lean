import DesignTokens.Artifact
import DesignTokens.Store

/-!
# A store as a cache of one cell

A store is used in any way while the files change. Its cell holds the document that the latest read
of its file has given, or nothing. A use either asks the disk, and then it tells what the file holds
at that time, or it does not depend on the disk.
-/

namespace DesignTokens

namespace Store

variable {s : Store} {doc : Document}

/-- Looking into a store does not change what it keeps. -/
theorem load_of_document (kept : s.document = some doc) (files : FileTree) :
    s.load files = ⟨s, .ok doc, []⟩ := by
  rw [load, kept]

theorem load_of_none (nothing : s.document = none) (files : FileTree) :
    s.load files = s.reload files := by
  rw [load, nothing]

theorem get_of_document (kept : s.document = some doc) (files : FileTree) :
    s.get files = ⟨s, .ok (some doc), []⟩ := by
  rw [get, load_of_document kept]

theorem result_reload (s : Store) (files : FileTree) :
    (s.reload files).result = files.load s.path := by
  rw [reload]
  cases files.load s.path <;> rfl

theorem store_reload (s : Store) (files : FileTree) :
    (s.reload files).store = ⟨s.path, (files.load s.path).toOption⟩ := by
  rw [reload]
  cases files.load s.path <;> rfl

theorem document_reload {files : FileTree} (ok : (s.reload files).result = .ok doc) :
    (s.reload files).store.document = some doc := by
  rw [result_reload] at ok
  rw [store_reload, ok]
  rfl

/-- A store keeps what loading gives. -/
theorem document_load (s : Store) (files : FileTree) :
    (s.load files).store.document = (s.load files).result.toOption := by
  cases hd : s.document with
  | some doc =>
    rw [load_of_document hd]
    exact hd
  | none => rw [load_of_none hd, store_reload, result_reload]

/-- What a look into a store makes of reading its document. -/
def tolerated : Except LoadError Document → Except LoadError (Option Document)
  | .ok doc => .ok (some doc)
  | .error (.refused ..) => .ok none
  | .error e => .error e

theorem join_tolerated (found : Except LoadError Document) :
    (tolerated found).toOption.join = found.toOption := by
  cases found with
  | ok doc => rfl
  | error e => cases e <;> rfl

theorem store_get (s : Store) (files : FileTree) : (s.get files).store = (s.load files).store := by
  rw [get]
  split <;> rfl

theorem result_get (s : Store) (files : FileTree) :
    (s.get files).result = tolerated (s.load files).result := by
  rw [get]
  split
  · rename_i doc h
    rw [h]
    rfl
  · rename_i cause file h
    rw [h]
    rfl
  · rename_i e other h
    rw [h]
    cases e with
    | refused cause file => exact absurd rfl (other cause file)
    | denied | digits | scalar => rfl

end Store

/-- What may happen to a store: that it is used, or that the files change. -/
inductive Use
  | load
  | get
  | reload
  | invalidate
  | isLoaded
  | compile (registry : Registry)
  | change (files : FileTree)

/-- What a use gives its caller. -/
inductive Answer
  | document (result : Except LoadError Document)
  | found (result : Except LoadError (Option Document))
  | artifacts (result : Except LoadError Compilation)
  | loaded (yes : Bool)
  | nothing

/-- The document that is handed to the caller. -/
def Answer.document? : Answer → Option Document
  | .document result => result.toOption
  | .found result => result.toOption.join
  | _ => none

structure Reply where
  store : Store
  answer : Answer
  log : Log

namespace Use

/-- Generators run on the document that loading gives. -/
def reply (s : Store) (files : FileTree) : Use → Reply
  | load =>
    let a := s.load files
    ⟨a.store, .document a.result, a.log⟩
  | get =>
    let a := s.get files
    ⟨a.store, .found a.result, a.log⟩
  | reload =>
    let a := s.reload files
    ⟨a.store, .document a.result, a.log⟩
  | invalidate => ⟨s.invalidate, .nothing, []⟩
  | isLoaded => ⟨s, .loaded s.isLoaded, []⟩
  | compile registry =>
    let a := s.load files
    match a.result with
    | .ok doc =>
      let c := DesignTokens.compile registry doc
      ⟨a.store, .artifacts (.ok c), a.log ++ c.log⟩
    | .error e => ⟨a.store, .artifacts (.error e), a.log⟩
  | change _ => ⟨s, .nothing, []⟩

/-- The files after a use. -/
def after (files : FileTree) : Use → FileTree
  | change files' => files'
  | _ => files

/-- Reloading asks the disk, and whatever needs the document asks if there is none. -/
def asks (s : Store) : Use → Bool
  | reload => true
  | load | get | compile _ => !s.isLoaded
  | invalidate | isLoaded | change _ => false

/-- What a use tells of a document that it was given. -/
def told (found : Except LoadError Document) : Use → Answer
  | load | reload => .document found
  | get => .found (Store.tolerated found)
  | compile registry => .artifacts (found.map (DesignTokens.compile registry))
  | _ => .nothing

theorem reply_compile (s : Store) (files : FileTree) (registry : Registry) :
    ((compile registry).reply s files).store = (s.load files).store ∧
      ((compile registry).reply s files).answer =
        .artifacts ((s.load files).result.map (DesignTokens.compile registry)) := by
  rw [reply]
  dsimp only
  split
  · rename_i doc h
    rw [h]
    exact ⟨rfl, rfl⟩
  · rename_i e h
    rw [h]
    exact ⟨rfl, rfl⟩

variable {s : Store} {u : Use}

/-- A use that asks the disk tells and leaves behind what the file holds. -/
theorem reply_of_asks (asks : u.asks s) (files : FileTree) :
    (u.reply s files).answer = u.told (files.load s.path) ∧
      (u.reply s files).store = ⟨s.path, (files.load s.path).toOption⟩ := by
  have nothing (h : (!s.isLoaded) = true) : s.document = none := by
    simpa [Store.isLoaded] using h
  cases u with
  | load =>
    have read := Store.load_of_none (nothing asks) files
    refine ⟨?_, ?_⟩
    · rw [reply, read, Store.result_reload]
      rfl
    · rw [reply, read, Store.store_reload]
  | get =>
    have read := Store.load_of_none (nothing asks) files
    refine ⟨?_, ?_⟩
    · rw [reply, Store.result_get, read, Store.result_reload]
      rfl
    · rw [reply, Store.store_get, read, Store.store_reload]
  | reload =>
    refine ⟨?_, ?_⟩
    · rw [reply, Store.result_reload]
      rfl
    · rw [reply, Store.store_reload]
  | compile registry =>
    have read := Store.load_of_none (nothing asks) files
    obtain ⟨store, answer⟩ := reply_compile s files registry
    refine ⟨?_, ?_⟩
    · rw [answer, read, Store.result_reload]
      rfl
    · rw [store, read, Store.store_reload]
  | invalidate | isLoaded | change => cases asks

/-- A use that does not ask the disk does not depend on it, and only invalidation changes what is
kept. -/
theorem reply_of_not_asks (spares : u.asks s = false) (files : FileTree) :
    (∀ files', u.reply s files' = u.reply s files) ∧
      (u ≠ .invalidate → (u.reply s files).store = s) := by
  have kept (h : (!s.isLoaded) = false) : ∃ doc, s.document = some doc := by
    simpa [Store.isLoaded, Option.isSome_iff_exists] using h
  cases u with
  | load =>
    obtain ⟨doc, hd⟩ := kept spares
    refine ⟨fun files' => ?_, fun _ => ?_⟩
    · rw [reply, reply, Store.load_of_document hd, Store.load_of_document hd]
    · rw [reply, Store.load_of_document hd]
  | get =>
    obtain ⟨doc, hd⟩ := kept spares
    refine ⟨fun files' => ?_, fun _ => ?_⟩
    · rw [reply, reply, Store.get_of_document hd, Store.get_of_document hd]
    · rw [reply, Store.get_of_document hd]
  | compile registry =>
    obtain ⟨doc, hd⟩ := kept spares
    refine ⟨fun files' => ?_, fun _ => ?_⟩
    · rw [reply, reply, Store.load_of_document hd, Store.load_of_document hd]
    · rw [reply, Store.load_of_document hd]
  | reload => cases spares
  | invalidate => exact ⟨fun _ => rfl, fun h => absurd rfl h⟩
  | isLoaded | change => exact ⟨fun _ => rfl, fun _ => rfl⟩

/-- A document that is handed out is kept. -/
theorem document_reply {files : FileTree} {doc : Document}
    (given : (u.reply s files).answer.document? = some doc) :
    (u.reply s files).store.document = some doc := by
  cases u with
  | load =>
    rw [reply, Store.document_load]
    exact given
  | get =>
    rw [reply, Answer.document?, Store.result_get, Store.join_tolerated] at given
    rw [reply, Store.store_get, Store.document_load]
    exact given
  | reload =>
    rw [reply, Answer.document?, Store.result_reload] at given
    rw [reply, Store.store_reload]
    exact given
  | compile registry =>
    rw [(reply_compile s files registry).2] at given
    cases given
  | invalidate | isLoaded | change => cases given

theorem path_reply (s : Store) (files : FileTree) (u : Use) :
    (u.reply s files).store.path = s.path := by
  cases asks : u.asks s with
  | true => rw [(reply_of_asks asks files).2]
  | false =>
    by_cases hu : u = .invalidate
    · rw [hu]
      rfl
    · rw [(reply_of_not_asks asks files).2 hu]

end Use

/-- A store with the files behind it, and what each read of its file has given, the latest first. -/
structure Usage where
  store : Store
  files : FileTree
  reads : List (Except LoadError Document)

namespace Usage

def fresh (path : Path) (files : FileTree) : Usage := ⟨.ofPath path, files, []⟩

def reply (r : Usage) (u : Use) : Reply := u.reply r.store r.files

def step (r : Usage) (u : Use) : Usage :=
  ⟨(r.reply u).store, u.after r.files,
    if u.asks r.store then r.files.load r.store.path :: r.reads else r.reads⟩

def run (r : Usage) (uses : List Use) : Usage := uses.foldl step r

/-- What is kept is what the latest read has given. -/
def Current (r : Usage) : Prop :=
  ∀ doc, r.store.document = some doc → r.reads.head? = some (.ok doc)

variable {r : Usage} {u : Use}

theorem reads_of_asks (asks : u.asks r.store) :
    (r.step u).reads = r.files.load r.store.path :: r.reads :=
  if_pos asks

theorem reads_of_not_asks (spares : u.asks r.store = false) : (r.step u).reads = r.reads :=
  if_neg (by rw [spares]; exact Bool.false_ne_true)

theorem Current.step (current : r.Current) (u : Use) : (r.step u).Current := by
  intro doc kept
  cases asks : u.asks r.store with
  | true =>
    have store : (r.step u).store = _ := (Use.reply_of_asks asks r.files).2
    rw [store] at kept
    rw [reads_of_asks asks, List.head?_cons]
    cases found : r.files.load r.store.path with
    | ok doc' =>
      rw [found] at kept
      exact congrArg (some ∘ Except.ok) (Option.some.inj kept)
    | error e =>
      rw [found] at kept
      cases kept
  | false =>
    rw [reads_of_not_asks asks]
    by_cases hu : u = .invalidate
    · subst hu
      cases kept
    · have store : (r.step u).store = r.store := (Use.reply_of_not_asks asks r.files).2 hu
      rw [store] at kept
      exact current doc kept

theorem path_run (uses : List Use) : (r.run uses).store.path = r.store.path := by
  induction uses generalizing r with
  | nil => rfl
  | cons u uses ih => exact ih.trans (Use.path_reply r.store r.files u)

/-- A document that is handed out is what the latest read has given. -/
theorem Current.given (current : r.Current) {doc : Document}
    (given : (r.reply u).answer.document? = some doc) :
    (r.step u).reads.head? = some (.ok doc) :=
  current.step u doc (Use.document_reply given)

end Usage

namespace Usage

variable {r : Usage}

theorem Current.compiled (current : r.Current) {registry : Registry} {c : Compilation}
    (compiled : (r.reply (.compile registry)).answer = .artifacts (.ok c)) :
    ∃ doc, (r.step (.compile registry)).reads.head? = some (.ok doc) ∧
      c = compile registry doc := by
  obtain ⟨store, answer⟩ := Use.reply_compile r.store r.files registry
  have result : Answer.artifacts ((r.store.load r.files).result.map (compile registry)) =
      .artifacts (.ok c) := answer.symm.trans compiled
  cases loaded : (r.store.load r.files).result with
  | error e =>
    rw [loaded] at result
    cases result
  | ok doc =>
    rw [loaded] at result
    have kept : (r.step (.compile registry)).store.document = some doc := by
      have after : (r.step (.compile registry)).store = (r.store.load r.files).store := store
      rw [after, Store.document_load, loaded]
      rfl
    exact ⟨doc, current.step _ doc kept, (Except.ok.inj (Answer.artifacts.inj result)).symm⟩

end Usage

end DesignTokens
