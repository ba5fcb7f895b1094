import DesignTokens.Proofs.Session
import DesignTokens.Proofs.StoreCache
import DesignTokens.Proofs.Writing

/-!
# What read access gives after a build

A build leaves its document in the shared store of the file. Until that store is reloaded,
invalidated or dropped, read access under any path to the file gives the style sheets of the build,
whatever happens to the files.
-/

namespace DesignTokens

/-- The operations after which a store keeps what it keeps and is still shared. -/
def Op.Spares (h : Handle) : Op → Prop
  | .reload h' => h' ≠ h
  | .invalidate h' => h' ≠ h
  | .clear => False
  | _ => True

/-- The shared store of a place keeps a document. -/
structure Shelf.Serves (shelf : Shelf) (place : Place) (h : Handle) (doc : Document) : Prop where
  shared : shelf.shared.lookup place = some h
  held : h < shelf.stores.length
  kept : (shelf.store h).document = some doc

namespace Shelf

variable {shelf : Shelf} {place : Place} {h : Handle} {doc : Document}

theorem Serves.setStore (serves : shelf.Serves place h doc) {h' : Handle} {s : Store}
    (same : h' = h → s.document = some doc) : (shelf.setStore h' s).Serves place h doc := by
  refine ⟨serves.shared, ?_, ?_⟩
  · rw [Shelf.setStore, List.length_set]
    exact serves.held
  · rw [store_setStore shelf s serves.held]
    by_cases hh : h' = h
    · rw [if_pos hh, same hh]
    · rw [if_neg hh, serves.kept]

theorem Serves.add (serves : shelf.Serves place h doc) (path : Path) :
    (shelf.add path).1.Serves place h doc := by
  refine ⟨serves.shared, ?_, ?_⟩
  · rw [Shelf.add, List.length_append]
    exact Nat.lt_add_right _ serves.held
  · rw [Shelf.add, store_append serves.held, serves.kept]

theorem Serves.share (serves : shelf.Serves place h doc) (files : FileTree) (path : Path) :
    (shelf.share files path).1.Serves place h doc := by
  rcases shelf.share_cases files path with ⟨_, -, hs⟩ | ⟨hl, hs⟩
  · rw [hs]
    exact serves
  · have elsewhere : place ≠ files.resolve path := by
      intro heq
      rw [← heq, serves.shared] at hl
      cases hl
    have added := serves.add path
    rw [hs]
    refine ⟨?_, added.held, added.kept⟩
    rw [lookup_cons_ite, if_neg elsewhere, serves.shared]

end Shelf

theorem Op.serves_run {op : Op} {w : World} {place : Place} {h : Handle} {doc : Document}
    (spares : op.Spares h) (serves : w.shelf.Serves place h doc) :
    (op.run w).shelf.Serves place h doc := by
  cases op with
  | files t => exact serves
  | environment env => exact serves
  | share path =>
    rcases w.shelf_share path with hw | hw
    · rw [Op.run, hw]
      exact serves
    · rw [Op.run, hw]
      exact serves.share w.files path
  | add path => exact serves.add path
  | load h' =>
    refine serves.setStore fun hh => ?_
    rw [hh, Store.load_of_document serves.kept, serves.kept]
  | get h' =>
    refine serves.setStore fun hh => ?_
    rw [hh, Store.get_of_document serves.kept, serves.kept]
  | reload h' => exact serves.setStore fun hh => absurd hh spares
  | invalidate h' => exact serves.setStore fun hh => absurd hh spares
  | clear => exact spares.elim

/-- The place of a path, which no name with the character NUL has. -/
def FileTree.resolved? (t : FileTree) (path : Path) : Option Place :=
  if path.hasNul then none else some (t.resolve path)

theorem FileTree.resolve_eq_of_resolved? {t t' : FileTree} {path path' : Path}
    (named : path.hasNul = false) (same : t'.resolved? path' = t.resolved? path) :
    path'.hasNul = false ∧ t'.resolve path' = t.resolve path := by
  rw [resolved?, resolved?, named] at same
  split at same
  · cases same
  · rename_i named'
    exact ⟨by simpa using named', Option.some.inj same⟩

namespace World

theorem share_ok {w : World} {path : Path} {h : Handle} (valid : w.shelf.Valid)
    (ok : (w.share path).result = .ok h) :
    path.hasNul = false ∧ (w.share path).world.files = w.files ∧
      (w.share path).world.shelf.shared.lookup (w.files.resolve path) = some h ∧
      h < (w.share path).world.shelf.stores.length := by
  rw [share] at ok ⊢
  split at ok
  · cases ok
  · rename_i hn
    rw [if_neg hn]
    have named : path.hasNul = false := by simpa using hn
    refine ⟨named, rfl, ?_⟩
    have hh : (w.shelf.share w.files path).2 = h := Except.ok.inj ok
    rcases w.shelf.share_cases w.files path with ⟨h', found, hs⟩ | ⟨-, hs⟩
    · rw [hs] at hh
      dsimp only at hh
      subst hh
      dsimp only
      rw [hs]
      exact ⟨found, valid.lt_of_lookup found⟩
    · rw [hs] at hh
      dsimp only at hh
      subst hh
      dsimp only
      rw [hs]
      exact ⟨by simp, by simp⟩

theorem access_ok {α : Type} {w : World} {h : Handle} {f : Store → FileTree → Access α} {a : α}
    (ok : (w.access h f).result = .ok a) : (f (w.shelf.store h) w.files).result = .ok a := by
  rw [access] at ok
  cases hf : (f (w.shelf.store h) w.files).result with
  | error e =>
    rw [hf] at ok
    cases ok
  | ok b =>
    rw [hf] at ok
    exact congrArg _ (Except.ok.inj ok)

theorem access_get {w : World} {h : Handle} {doc : Document}
    (kept : (w.shelf.store h).document = some doc) :
    (w.access h Store.get).result = .ok (some doc) := by
  rw [access, Store.get_of_document kept]
  rfl

/-- A build that gives a report has read a document, which the shared store of the file keeps, and
has stored the artifacts of that document. -/
theorem build_ok {w : World} {s : Settings} {r : Report} (valid : w.shelf.Valid)
    (built : (w.build s none).result = .ok r) :
    ∃ h doc, (w.share s.tokens).result = .ok h ∧ s.tokens.hasNul = false ∧
      (w.build s none).world.shelf.Serves (w.files.resolve s.tokens) h doc ∧
      (writeArtifacts w.files (compile builtin doc) s.output).result = .ok r ∧
      (w.build s none).world.files =
        (writeArtifacts w.files (compile builtin doc) s.output).files := by
  obtain ⟨h, hshare, hbuilt, hworld⟩ := Outcome.andThen_ok built
  obtain ⟨named, files, found, held⟩ := share_ok valid hshare
  obtain ⟨doc, hread, hproduced, hworld'⟩ := Outcome.andThen_ok hbuilt
  have world : (w.build s none).world =
      (((w.share s.tokens).world.access h Store.reload).world.produce s.output doc).world :=
    hworld.trans hworld'
  have serves : ((w.share s.tokens).world.access h Store.reload).world.shelf.Serves
      (w.files.resolve s.tokens) h doc := by
    refine ⟨found, ?_, ?_⟩
    · rw [access, Shelf.setStore, List.length_set]
      exact held
    · rw [access, Shelf.store_setStore _ _ held, if_pos rfl]
      exact Store.document_reload (access_ok hread)
  refine ⟨h, doc, hshare, named, ?_, ?_, ?_⟩
  · rw [world]
    exact serves
  · rw [← files]
    exact hproduced
  · rw [world, ← files]
    rfl

/-- Read access under any path to a file gives the document that its shared store keeps. -/
theorem tokens_of_serves {w : World} {s : Settings} {h : Handle} {doc : Document}
    (set : w.settings Settings.nothing = .ok s) (named : s.tokens.hasNul = false)
    (serves : w.shelf.Serves (w.files.resolve s.tokens) h doc) :
    (w.tokens none).result = .ok (some doc) := by
  have shared : w.shelf.share w.files s.tokens = (w.shelf, h) := by
    simp only [Shelf.share, serves.shared]
  have default : w.defaultStore = ⟨w, .ok h, []⟩ := by
    rw [defaultStore, set]
    dsimp only
    rw [share, named, shared]
    rfl
  rw [tokens, default]
  exact access_get serves.kept

end World

/-- Every style sheet is known by its own name and has a generator. -/
theorem generator_of_stylesheet {name : String} (known : name ∈ stylesheets) :
    stylesheet name = .ok name ∧ ∃ g, builtin.lookup name = some g := by
  simp only [stylesheets, List.mem_cons, List.not_mem_nil, or_false] at known
  rcases known with rfl | rfl | rfl | rfl <;> exact ⟨rfl, _, rfl⟩

/-- A style sheet is what its generator makes of the document. -/
theorem World.themeCss_of_tokens {w : World} {name : String} {g : Generator} {doc : Document}
    (known : name ∈ stylesheets) (generator : builtin.lookup name = some g)
    (read : (w.tokens none).result = .ok (some doc)) :
    (w.themeCss name none).result = ((g doc).map some).mapError .generation := by
  rw [themeCss, (generator_of_stylesheet known).1]
  dsimp only
  rw [generator, fromTokens, Outcome.andThen, read]

theorem Compilation.get?_cons (a : Artifact) (c : List Artifact) (name : String) :
    Compilation.get? (a :: c) name = if a.name = name then some a else Compilation.get? c name := by
  rw [Compilation.get?, List.find?_cons]
  by_cases hn : a.name = name
  · rw [if_pos hn, decide_eq_true hn]
  · rw [if_neg hn, decide_eq_false hn]
    rfl

theorem get?_compile (registry : Registry) (doc : Document) (name : String) :
    Compilation.get? (compile registry doc) name =
      (registry.lookup name).map fun g => .ofOutput name (g doc) := by
  induction registry with
  | nil => rfl
  | cons e rest ih =>
    obtain ⟨first, g⟩ := e
    have cons : compile ((first, g) :: rest) doc = .ofOutput first (g doc) :: compile rest doc :=
      rfl
    rw [cons, Compilation.get?_cons, lookup_cons_ite, Artifact.ofOutput_name, ih]
    by_cases hn : first = name
    · rw [if_pos hn, if_pos hn.symm, hn]
      rfl
    · rw [if_neg hn, if_neg fun h => hn h.symm]

theorem exists_get?_of_recorded {done artifacts : List Artifact} {name : String} {a : Artifact}
    (recorded : List.Forall₂ Artifact.Recorded done artifacts)
    (found : Compilation.get? done name = some a) :
    ∃ b, Compilation.get? artifacts name = some b ∧ a.Recorded b := by
  induction recorded with
  | nil => cases found
  | @cons a' b' _ _ first _ ih =>
    rw [Compilation.get?_cons] at found ⊢
    rw [first.name]
    by_cases hn : a'.name = name
    · rw [if_pos hn] at found ⊢
      exact ⟨b', rfl, Option.some.inj found ▸ first⟩
    · rw [if_neg hn] at found ⊢
      exact ih found

theorem Compilation.mem_of_get? {c : Compilation} {name : String} {a : Artifact}
    (found : c.get? name = some a) : a ∈ c ∧ a.name = name := by
  rw [Compilation.get?] at found
  have named := List.find?_some found
  exact ⟨List.mem_of_find?_eq_some found, of_decide_eq_true named⟩

/-- Read access answers as a report records an artifact: with the text of a generator that
succeeded, which is also what the file of the artifact was given if it was written, or with the
failure of a generator that failed. -/
def Report.Agrees (r : Report) (files : FileTree) (output : Path) (a : Artifact)
    (answer : Except Problem (Option Text)) : Prop :=
  match a.content with
  | some text =>
    answer = .ok (some text) ∧
      (a.success → r.path? a.name = some (a.pathIn output) ∧
        files.Holds (a.pathIn output) text)
  | none => ∃ failure, a.failure = some failure ∧ answer = .error (.generation failure)

theorem agrees_of_recorded {files : FileTree} {output : Path} {doc : Document} {w : Writing}
    (sound : Writing.Sound files output (compile builtin doc) w) {name : String} {g : Generator}
    (generator : builtin.lookup name = some g) :
    ∃ a, Compilation.get? w.report.artifacts name = some a ∧
      w.report.Agrees w.files output a (((g doc).map some).mapError .generation) := by
  have compiled := get?_compile builtin doc name
  rw [generator, Option.map_some] at compiled
  obtain ⟨a, found, recorded⟩ := exists_get?_of_recorded sound.recorded compiled
  refine ⟨a, found, ?_⟩
  rw [Report.Agrees]
  cases hg : g doc with
  | error failure =>
    rw [hg] at recorded
    rw [recorded.of_failure rfl]
    exact ⟨failure, rfl, rfl⟩
  | ok text =>
    rw [hg] at recorded
    have content : a.content = some text := recorded.content
    rw [content]
    refine ⟨rfl, fun ok => ?_⟩
    have mem := (Compilation.mem_of_get? found).1
    have stored := sound.stored a mem ok
    rw [content, Option.getD_some] at stored
    exact ⟨sound.path? (names_compile builtin doc ▸ builtin_names_nodup) mem ok, stored⟩

/-- After a build has given a report, and whatever has happened since that spares the shared store
of the document, read access to each style sheet under any path to the document agrees with the
report. -/
theorem themeCss_agrees_with_build {w : World} (reached : w.Reached) {s : Settings} {r : Report}
    (built : (w.build s none).result = .ok r) {h : Handle}
    (shared : (w.share s.tokens).result = .ok h) {later : World}
    (since : World.Leads (Op.Spares h) (w.build s none).world later) {s' : Settings}
    (set : later.settings Settings.nothing = .ok s')
    (spelling : later.files.resolved? s'.tokens = w.files.resolved? s.tokens) {name : String}
    (known : name ∈ stylesheets) :
    ∃ a, Compilation.get? r.artifacts name = some a ∧
      r.Agrees (w.build s none).world.files s.output a (later.themeCss name none).result := by
  obtain ⟨h', doc, hshare, named, serves, hwritten, hfiles⟩ := World.build_ok reached.valid built
  obtain rfl : h' = h := Except.ok.inj (hshare.symm.trans shared)
  obtain ⟨rfl, sound⟩ :=
    writeArtifacts_sound (apart_compile_builtin w.files s.output doc) hwritten
  -- The document of the build is still what the store keeps, whatever the file holds by now.
  have served := since.preserves
    (P := fun w' => w'.shelf.Serves (w.files.resolve s.tokens) h' doc)
    (fun _ _ spares => Op.serves_run spares) serves
  obtain ⟨named', place⟩ := FileTree.resolve_eq_of_resolved? named spelling
  rw [← place] at served
  have read := World.tokens_of_serves set named' served
  obtain ⟨-, g, generator⟩ := generator_of_stylesheet known
  rw [World.themeCss_of_tokens known generator read, hfiles]
  exact agrees_of_recorded sound generator

/-- A document with a malformed token at its root. -/
def World.spelled : World :=
  ⟨⟨[(["tokens.json"], .file (Text.Utf8.encode "\x7b\"a\": []\x7d".toList) 1)], [], [], 1⟩, [],
    Shelf.empty⟩

/-- The document has been built and is gone, and the environment names it in another way. -/
def World.spelledLater : World :=
  (World.spelled.build Settings.nearby none).world.run
    [.files ⟨[], [], [], 1⟩, .environment [(Environment.tokensName, "/x/../tokens.json")]]

theorem themeCss_agrees_with_build_spelled :
    ∃ r, (World.spelled.build Settings.nearby none).result = .ok r ∧
      (∃ a, Compilation.get? r.artifacts "base" = some a ∧
        r.Agrees (World.spelled.build Settings.nearby none).world.files Settings.nearby.output a
          (World.spelledLater.themeCss "base" none).result) ∧
      ∃ a, Compilation.get? r.artifacts "slidev" = some a ∧
        r.Agrees (World.spelled.build Settings.nearby none).world.files Settings.nearby.output a
          (World.spelledLater.themeCss "slidev" none).result := by
  have reached : World.spelled.Reached := ⟨_, _, World.Leads.refl _⟩
  have ok : (World.spelled.build Settings.nearby none).result.isOk = true := by decide +kernel
  have shared : (World.spelled.share Settings.nearby.tokens).result = .ok 0 := rfl
  have since : World.Leads (Op.Spares 0) (World.spelled.build Settings.nearby none).world
      World.spelledLater := by
    refine ⟨_, fun op hop => ?_, rfl⟩
    simp only [List.mem_cons, List.not_mem_nil, or_false] at hop
    rcases hop with rfl | rfl <;> exact trivial
  have set : World.spelledLater.settings Settings.nothing =
      .ok ⟨⟨.root, ["x", "..", "tokens.json"]⟩, Settings.defaultOutput,
        Settings.defaultInterval⟩ := rfl
  cases built : (World.spelled.build Settings.nearby none).result with
  | error p =>
    rw [built] at ok
    cases ok
  | ok r =>
    refine ⟨r, rfl, ?_, ?_⟩
    · exact themeCss_agrees_with_build reached built shared since set rfl (by decide)
    · exact themeCss_agrees_with_build reached built shared since set rfl (by decide)

end DesignTokens
