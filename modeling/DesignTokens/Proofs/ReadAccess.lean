import DesignTokens.Proofs.ReadPath

/-!
# Reads do not disturb each other

Read access puts documents into stores and shares the store that it takes by default. It changes
nothing that other read access depends on: what a store will give, and which store is the default
one, stay as they were. So reads can be made in any order.
-/

namespace DesignTokens

/-- Loading once more gives the same. -/
theorem Store.load_again (s : Store) (files : FileTree) :
    (s.load files).store.load files = ⟨(s.load files).store, (s.load files).result, []⟩ := by
  cases hd : s.document with
  | some doc =>
    rw [load_of_document hd]
    exact load_of_document hd files
  | none =>
    rw [load_of_none hd, reload]
    cases found : files.load s.path with
    | ok doc => rfl
    | error e =>
      dsimp only
      rw [load_of_none rfl, reload, found]

namespace Shelf

variable {shelf : Shelf} {files : FileTree} {h h' : Handle}

/-- The shelf after a look into a store. -/
def opened (shelf : Shelf) (files : FileTree) (h : Handle) : Shelf :=
  shelf.setStore h ((shelf.store h).load files).store

/-- What a look into a store finds. -/
def reading (shelf : Shelf) (files : FileTree) (h : Handle) : Except LoadError Document :=
  ((shelf.store h).load files).result

theorem length_opened (shelf : Shelf) (files : FileTree) (h : Handle) :
    (shelf.opened files h).stores.length = shelf.stores.length := by
  rw [opened, setStore, List.length_set]

theorem store_opened (held : h < shelf.stores.length) :
    (shelf.opened files h').store h =
      if h' = h then ((shelf.store h).load files).store else shelf.store h := by
  rw [opened, store_setStore shelf _ held]
  by_cases same : h' = h
  · rw [if_pos same, if_pos same, same]
  · rw [if_neg same, if_neg same]

theorem reading_opened (held : h < shelf.stores.length) :
    (shelf.opened files h').reading files h = shelf.reading files h := by
  rw [reading, store_opened held]
  by_cases same : h' = h
  · rw [if_pos same, Store.load_again, reading]
  · rw [if_neg same, reading]

theorem load_opened (held : h < shelf.stores.length) :
    (((shelf.opened files h').store h).load files).store =
      ((shelf.store h).load files).store := by
  rw [store_opened held]
  by_cases same : h' = h
  · rw [if_pos same, Store.load_again]
  · rw [if_neg same]

theorem opened_opened (files : FileTree) (held : h < shelf.stores.length)
    (held' : h' < shelf.stores.length) :
    (shelf.opened files h).opened files h' = (shelf.opened files h').opened files h := by
  by_cases same : h = h'
  · rw [same]
  · rw [opened, load_opened held', opened, opened, load_opened held, opened, setStore, setStore,
      setStore, setStore, List.set_comm _ _ same]

/-- Sharing a store and looking into another one can change places. -/
theorem share_opened (files : FileTree) (held : h < shelf.stores.length) (tree : FileTree)
    (path : Path) :
    (shelf.opened files h).share tree path =
      ((shelf.share tree path).1.opened files h, (shelf.share tree path).2) := by
  have length := shelf.length_opened files h
  rcases shelf.share_cases tree path with ⟨k, found, hs⟩ | ⟨missing, hs⟩
  · rcases (shelf.opened files h).share_cases tree path with ⟨k', found', hs'⟩ | ⟨missing', -⟩
    · have same : k = k' := Option.some.inj (found.symm.trans found')
      rw [hs, hs', same]
    · cases found.symm.trans missing'
  · rcases (shelf.opened files h).share_cases tree path with ⟨k', found', -⟩ | ⟨missing', hs'⟩
    · cases missing.symm.trans found'
    · have kept : (Shelf.mk (shelf.stores ++ [.ofPath path])
          ((tree.resolve path, shelf.stores.length) :: shelf.shared)).store h = shelf.store h :=
        store_append held _ _
      rw [hs, hs', length, opened, setStore, opened, setStore, kept, List.set_append_left _ _ held]

/-- A shared store stays shared. -/
theorem share_again (shelf : Shelf) (files : FileTree) (path : Path) :
    (shelf.share files path).1.share files path = shelf.share files path :=
  share_of_lookup (shelf.lookup_share files path)

/-- Sharing leaves what is found in the other stores. -/
theorem store_share (held : h < shelf.stores.length) (files : FileTree) (path : Path) :
    (shelf.share files path).1.store h = shelf.store h := by
  rcases shelf.share_cases files path with ⟨k, -, hs⟩ | ⟨-, hs⟩
  · rw [hs]
  · rw [hs]
    exact store_append held _ _

theorem length_le_share (shelf : Shelf) (files : FileTree) (path : Path) :
    shelf.stores.length ≤ (shelf.share files path).1.stores.length := by
  rcases shelf.share_cases files path with ⟨k, -, hs⟩ | ⟨-, hs⟩
  · exact Nat.le_of_eq (by rw [hs])
  · rw [hs, List.length_append]
    exact Nat.le_add_right _ _

end Shelf

namespace World

variable {w : World} {given given' : Option Handle} {h : Handle}

/-- The store of a read: the given one, or else the default one. -/
def storeOf (w : World) (given : Option Handle) : Outcome Handle :=
  match given with
  | some h => ⟨w, .ok h, []⟩
  | none => w.defaultStore

def opened (w : World) (h : Handle) : World := { w with shelf := w.shelf.opened w.files h }

def openedBy (w : World) : Except Problem Handle → World
  | .ok h => w.opened h
  | .error _ => w

def reading (w : World) (h : Handle) : Except LoadError Document := w.shelf.reading w.files h

/-- A world with the same files and environment and at least the same stores. -/
structure Grows (w w' : World) : Prop where
  files : w'.files = w.files
  environment : w'.environment = w.environment
  stores : w.shelf.stores.length ≤ w'.shelf.stores.length

theorem Grows.refl (w : World) : w.Grows w := ⟨rfl, rfl, Nat.le_refl _⟩

theorem Grows.trans {w w' w'' : World} (first : w.Grows w') (later : w'.Grows w'') :
    w.Grows w'' :=
  ⟨later.files.trans first.files, later.environment.trans first.environment,
    Nat.le_trans first.stores later.stores⟩

/-- What is given is on the shelf. -/
def Holds (w : World) (given : Option Handle) : Prop :=
  ∀ h, given = some h → h < w.shelf.stores.length

theorem tokens_eq (w : World) (given : Option Handle) :
    w.tokens given = (w.storeOf given).andThen fun w h => w.access h Store.get := by
  cases given <;> rfl

theorem world_get (w : World) (h : Handle) : (w.access h Store.get).world = w.opened h := by
  rw [access, opened, Shelf.opened]
  dsimp only
  rw [Store.store_get]

theorem result_get (w : World) (h : Handle) :
    (w.access h Store.get).result = (Store.tolerated (w.reading h)).mapError .load := by
  rw [access, reading, Shelf.reading]
  dsimp only
  rw [Store.result_get]

/-- Reading changes the world by sharing the default store and by opening a store. -/
theorem world_tokens (w : World) (given : Option Handle) :
    (w.tokens given).world = (w.storeOf given).world.openedBy (w.storeOf given).result := by
  rw [tokens_eq, Outcome.andThen]
  cases (w.storeOf given).result with
  | ok h => exact world_get _ h
  | error p => rfl

theorem result_tokens (w : World) (given : Option Handle) :
    (w.tokens given).result = (w.storeOf given).result.bind fun h =>
      (Store.tolerated ((w.storeOf given).world.reading h)).mapError .load := by
  rw [tokens_eq, Outcome.andThen]
  cases (w.storeOf given).result with
  | ok h => exact result_get _ h
  | error p => rfl

/-- The world in which the file of a path has a shared store. -/
def sharing (w : World) (path : Path) : World :=
  { w with shelf := (w.shelf.share w.files path).1 }

/-- The environment tells if a default store is asked for, and of which path. -/
theorem storeOf_cases (env : Environment) (given : Option Handle) :
    (∃ r, ∀ w : World, w.environment = env → w.storeOf given = ⟨w, r, []⟩) ∨
      ∃ path, given = none ∧ ∀ w : World, w.environment = env →
        w.storeOf given = ⟨w.sharing path, .ok (w.shelf.share w.files path).2, []⟩ := by
  cases given with
  | some h => exact Or.inl ⟨.ok h, fun w _ => rfl⟩
  | none =>
    cases set : Settings.ofEnvironment env Settings.nothing with
    | error f =>
      refine Or.inl ⟨.error (.interval f), fun w same => ?_⟩
      rw [storeOf, defaultStore, settings, same, set]
    | ok s =>
      have asked : ∀ w : World, w.environment = env → w.storeOf none = w.share s.tokens := by
        intro w same
        rw [storeOf, defaultStore, settings, same, set]
      by_cases nul : s.tokens.hasNul = true
      · refine Or.inl ⟨.error (.file ⟨.nul, s.tokens⟩), fun w same => ?_⟩
        rw [asked w same, share, if_pos nul]
      · refine Or.inr ⟨s.tokens, rfl, fun w same => ?_⟩
        rw [asked w same, share, if_neg nul]
        rfl

theorem grows_storeOf (w : World) (given : Option Handle) : w.Grows (w.storeOf given).world := by
  rcases storeOf_cases w.environment given with ⟨r, found⟩ | ⟨path, -, found⟩
  · rw [found w rfl]
    exact Grows.refl w
  · rw [found w rfl]
    exact ⟨rfl, rfl, w.shelf.length_le_share w.files path⟩

theorem reading_storeOf (held : h < w.shelf.stores.length) (given : Option Handle) :
    (w.storeOf given).world.reading h = w.reading h := by
  rcases storeOf_cases w.environment given with ⟨r, found⟩ | ⟨path, -, found⟩
  · rw [found w rfl]
  · rw [found w rfl, sharing, reading, Shelf.reading, Shelf.store_share held]
    rfl

/-- The store that is read is on the shelf then. -/
theorem lt_of_storeOf (valid : w.shelf.Valid) (holds : w.Holds given)
    (found : (w.storeOf given).result = .ok h) :
    h < (w.storeOf given).world.shelf.stores.length := by
  cases given with
  | some given =>
    rw [← Except.ok.inj found]
    exact holds given rfl
  | none =>
    rw [storeOf, defaultStore] at found ⊢
    cases set : w.settings Settings.nothing with
    | error p =>
      rw [set] at found
      cases found
    | ok s =>
      rw [set] at found
      exact (share_ok valid found).2.2.2

theorem storeOf_opened (held : h < w.shelf.stores.length) (given : Option Handle) :
    (w.opened h).storeOf given =
      ⟨(w.storeOf given).world.opened h, (w.storeOf given).result, []⟩ := by
  rcases storeOf_cases w.environment given with ⟨r, found⟩ | ⟨path, -, found⟩
  · rw [found w rfl, found (w.opened h) rfl]
  · have shared := Shelf.share_opened w.files held w.files path
    rw [found w rfl, found (w.opened h) rfl, sharing, sharing, opened, opened]
    dsimp only
    rw [shared]

/-- Reads find the same stores in either order. -/
theorem storeOf_storeOf (w : World) (given given' : Option Handle) :
    (w.storeOf given).world.storeOf given' =
      ⟨((w.storeOf given').world.storeOf given).world, (w.storeOf given').result, []⟩ := by
  rcases storeOf_cases w.environment given with ⟨r, found⟩ | ⟨path, rfl, found⟩
  · rcases storeOf_cases w.environment given' with ⟨r', found'⟩ | ⟨path', -, found'⟩
    · rw [found w rfl, found' w rfl, found w rfl]
    · rw [found w rfl, found' w rfl, found (w.sharing path') rfl]
  · rcases storeOf_cases w.environment given' with ⟨r', found'⟩ | ⟨path', rfl, -⟩
    · rw [found w rfl, found' (w.sharing path) rfl, found' w rfl, found w rfl]
    · have again := w.shelf.share_again w.files path
      rw [found w rfl, found (w.sharing path) rfl, sharing, sharing]
      dsimp only
      rw [again]

theorem Holds.storeOf (holds : w.Holds given) (given' : Option Handle) :
    (w.storeOf given').world.Holds given :=
  fun h hh => Nat.lt_of_lt_of_le (holds h hh) (w.grows_storeOf given').stores

theorem storeOf_openedBy {r : Except Problem Handle}
    (held : ∀ h, r = .ok h → h < w.shelf.stores.length) (given : Option Handle) :
    (w.openedBy r).storeOf given =
      ⟨(w.storeOf given).world.openedBy r, (w.storeOf given).result, []⟩ := by
  cases r with
  | ok h => exact storeOf_opened (held h rfl) given
  | error p =>
    rcases storeOf_cases w.environment given with ⟨r, found⟩ | ⟨path, -, found⟩
    · rw [openedBy, found w rfl, openedBy]
    · rw [openedBy, found w rfl, openedBy]

theorem reading_openedBy (held : h < w.shelf.stores.length) (r : Except Problem Handle) :
    (w.openedBy r).reading h = w.reading h := by
  cases r with
  | ok h' => exact Shelf.reading_opened held
  | error p => rfl

theorem openedBy_openedBy {r r' : Except Problem Handle}
    (held : ∀ h, r = .ok h → h < w.shelf.stores.length)
    (held' : ∀ h, r' = .ok h → h < w.shelf.stores.length) :
    (w.openedBy r).openedBy r' = (w.openedBy r').openedBy r := by
  cases r with
  | error p => rfl
  | ok h =>
    cases r' with
    | error p => rfl
    | ok h' =>
      have same := Shelf.opened_opened w.files (held h rfl) (held' h' rfl)
      rw [openedBy, openedBy, openedBy, openedBy, opened, opened, opened, opened]
      dsimp only
      rw [same]

theorem grows_openedBy (w : World) (r : Except Problem Handle) : w.Grows (w.openedBy r) := by
  cases r with
  | ok h => exact ⟨rfl, rfl, Nat.le_of_eq (w.shelf.length_opened w.files h).symm⟩
  | error p => exact Grows.refl w

theorem grows_tokens (w : World) (given : Option Handle) : w.Grows (w.tokens given).world := by
  rw [world_tokens]
  exact (w.grows_storeOf given).trans (grows_openedBy _ _)

/-- A read gives the same document after another read. -/
theorem tokens_after_tokens (valid : w.shelf.Valid) (holds : w.Holds given)
    (holds' : w.Holds given') :
    ((w.tokens given').world.tokens given).result = (w.tokens given).result := by
  have held' : ∀ h, (w.storeOf given').result = .ok h →
      h < (w.storeOf given').world.shelf.stores.length :=
    fun h found => lt_of_storeOf valid holds' found
  rw [result_tokens, world_tokens, storeOf_openedBy held', storeOf_storeOf, result_tokens]
  dsimp only
  cases found : (w.storeOf given).result with
  | error p => rfl
  | ok h =>
    have held := lt_of_storeOf valid holds found
    have more := Nat.lt_of_lt_of_le held ((w.storeOf given).world.grows_storeOf given').stores
    dsimp only [Except.bind]
    rw [reading_openedBy more, reading_storeOf held]

/-- Two reads leave the same world behind in either order. -/
theorem tokens_comm (valid : w.shelf.Valid) (holds : w.Holds given) (holds' : w.Holds given') :
    ((w.tokens given).world.tokens given').world =
      ((w.tokens given').world.tokens given).world := by
  have held : ∀ h, (w.storeOf given).result = .ok h →
      h < (w.storeOf given).world.shelf.stores.length :=
    fun h found => lt_of_storeOf valid holds found
  have held' : ∀ h, (w.storeOf given').result = .ok h →
      h < (w.storeOf given').world.shelf.stores.length :=
    fun h found => lt_of_storeOf valid holds' found
  have both : ((w.storeOf given').world.storeOf given).world =
      ((w.storeOf given).world.storeOf given').world := by
    rw [storeOf_storeOf]
  have more : ∀ h, (w.storeOf given).result = .ok h →
      h < ((w.storeOf given).world.storeOf given').world.shelf.stores.length :=
    fun h found => Nat.lt_of_lt_of_le (held h found)
      ((w.storeOf given).world.grows_storeOf given').stores
  have more' : ∀ h, (w.storeOf given').result = .ok h →
      h < ((w.storeOf given).world.storeOf given').world.shelf.stores.length := by
    intro h found
    rw [← both]
    exact Nat.lt_of_lt_of_le (held' h found) ((w.storeOf given').world.grows_storeOf given).stores
  have result : ((w.storeOf given).world.storeOf given').result = (w.storeOf given').result := by
    rw [storeOf_storeOf]
  have result' : ((w.storeOf given').world.storeOf given).result = (w.storeOf given).result := by
    rw [storeOf_storeOf]
  calc ((w.tokens given).world.tokens given').world
      = (((w.storeOf given).world.storeOf given').world.openedBy
          (w.storeOf given).result).openedBy (w.storeOf given').result := by
        rw [world_tokens, world_tokens, storeOf_openedBy held, result]
    _ = (((w.storeOf given).world.storeOf given').world.openedBy
          (w.storeOf given').result).openedBy (w.storeOf given).result :=
        openedBy_openedBy more more'
    _ = ((w.tokens given').world.tokens given).world := by
        rw [world_tokens, world_tokens, storeOf_openedBy held', result', both]

/-- What is made of the document that a read gives. -/
def ofTokens {α : Type} (usual : α) (read : Document → Except Failure α) :
    Except Problem (Option Document) → Except Problem α
  | .error p => .error p
  | .ok none => .ok usual
  | .ok (some doc) => (read doc).mapError .generation

theorem world_fromTokens {α : Type} (w : World) (given : Option Handle) (usual : α)
    (read : Document → Except Failure α) :
    (w.fromTokens given usual read).world = (w.tokens given).world := by
  rw [fromTokens, Outcome.andThen]
  cases (w.tokens given).result with
  | error p => rfl
  | ok found => cases found <;> rfl

theorem result_fromTokens {α : Type} (w : World) (given : Option Handle) (usual : α)
    (read : Document → Except Failure α) :
    (w.fromTokens given usual read).result = ofTokens usual read (w.tokens given).result := by
  rw [fromTokens, Outcome.andThen]
  cases (w.tokens given).result with
  | error p => rfl
  | ok found => cases found <;> rfl

end World

/-- A question that a consumer of the theme asks. -/
inductive Query
  | tokens (store : Option Handle)
  | themeCss (framework : String) (store : Option Handle)
  | cssVariables (store : Option Handle)
  | inlineStyles (dark : Bool) (store : Option Handle)
  | themePath (framework : String) (output : Option Path)

/-- What a question can come to. -/
inductive Query.Result
  | document (found : Option Document)
  | sheet (text : Option Text)
  | values (found : List (Text × Scalar))
  | styles (found : List (String × Text))
  | path (found : Option Path)

namespace Query

def ask (w : World) : Query → Outcome Query.Result
  | tokens store => (w.tokens store).map .document
  | themeCss framework store => (w.themeCss framework store).map .sheet
  | cssVariables store => (w.cssVariables store).map .values
  | inlineStyles dark store => (w.inlineStyles dark store).map .styles
  | themePath framework output => (w.themePath framework output).map .path

/-- The store that a question is asked about. -/
def given : Query → Option Handle
  | tokens store | themeCss _ store | cssVariables store | inlineStyles _ store => store
  | themePath _ _ => none

/-- The world after some questions. -/
def askAll (w : World) (questions : List Query) : World :=
  questions.foldl (fun w q => (q.ask w).world) w

/-- A question that takes its answer from the files and the environment alone. -/
def Aside (q : Query) : Prop :=
  ∃ answer : FileTree → Environment → Except Problem Query.Result,
    ∀ w : World, (q.ask w).world = w ∧ (q.ask w).result = answer w.files w.environment

/-- A question that takes its answer from a document. -/
def Reads (q : Query) : Prop :=
  ∃ answer : Except Problem (Option Document) → Except Problem Query.Result,
    ∀ w : World, (q.ask w).world = (w.tokens q.given).world ∧
      (q.ask w).result = answer (w.tokens q.given).result

theorem reads_of_fromTokens {α : Type} {q : Query} (kind : α → Query.Result) (usual : α)
    (read : Document → Except Failure α)
    (asked : ∀ w : World, q.ask w = (w.fromTokens q.given usual read).map kind) : q.Reads := by
  refine ⟨fun found => (World.ofTokens usual read found).map kind, fun w => ?_⟩
  have world := World.world_fromTokens w q.given usual read
  have result := World.result_fromTokens w q.given usual read
  rw [asked w]
  exact ⟨world, congrArg (Except.map kind) result⟩

theorem aside_themePath (framework : String) (output : Option Path) :
    (themePath framework output).Aside := by
  refine ⟨fun files env =>
    (World.themePath ⟨files, env, .empty⟩ framework output).result.map .path, fun w => ?_⟩
  have here : ∀ name out, (w.themePathIn name out).world = w ∧ (w.themePathIn name out).result =
      (World.themePathIn ⟨w.files, w.environment, .empty⟩ name out).result := by
    intro name out
    rw [World.themePathIn, World.themePathIn]
    dsimp only
    cases w.files.contains (out ++ Path.ofString (Artifact.filenameOf name)) with
    | error e => exact ⟨rfl, rfl⟩
    | ok there => cases there <;> exact ⟨rfl, rfl⟩
  have alone : (w.themePath framework output).world = w ∧ (w.themePath framework output).result =
      (World.themePath ⟨w.files, w.environment, .empty⟩ framework output).result := by
    rw [World.themePath, World.themePath]
    cases stylesheet framework with
    | error p => exact ⟨rfl, rfl⟩
    | ok name =>
      cases output with
      | some out => exact here name out
      | none =>
        dsimp only [World.settings]
        cases Settings.ofEnvironment w.environment Settings.nothing with
        | error f => exact ⟨rfl, rfl⟩
        | ok s => exact here name s.output
  exact ⟨alone.1, congrArg (Except.map Query.Result.path) alone.2⟩

theorem aside_or_reads (q : Query) : q.Aside ∨ q.Reads := by
  cases q with
  | tokens store => exact Or.inr ⟨fun found => found.map .document, fun w => ⟨rfl, rfl⟩⟩
  | themeCss framework store =>
    cases known : stylesheet framework with
    | error p =>
      refine Or.inl ⟨fun _ _ => .error p, fun w => ?_⟩
      rw [ask, World.themeCss, known]
      exact ⟨rfl, rfl⟩
    | ok name =>
      refine Or.inr (reads_of_fromTokens .sheet none
        (fun doc => (builtin.lookup name).elim (.ok none) fun g => (g doc).map some) fun w => ?_)
      rw [ask, World.themeCss, known, given]
      dsimp only
      cases builtin.lookup name <;> rfl
  | cssVariables store => exact Or.inr (reads_of_fromTokens .values [] _ fun w => rfl)
  | inlineStyles dark store => exact Or.inr (reads_of_fromTokens .styles [] _ fun w => rfl)
  | themePath framework output => exact Or.inl (aside_themePath framework output)

end Query

namespace World

/-- The questions about given stores are about stores on the shelf. -/
def CanAsk (w : World) (q : Query) : Prop := w.Holds q.given

/-- To whoever reads, the second world is as the first: the files and the environment are the same,
every question has the answer that it had, and two questions can be asked in either order. -/
structure ReadsAlike (w v : World) : Prop where
  files : v.files = w.files
  environment : v.environment = w.environment
  answers : ∀ q, w.CanAsk q → (q.ask v).result = (q.ask w).result
  either : ∀ q q', w.CanAsk q → w.CanAsk q' →
    (q'.ask (q.ask v).world).result = (q'.ask v).result ∧
      (q.ask (q'.ask v).world).result = (q.ask v).result ∧
      (q'.ask (q.ask v).world).world = (q.ask (q'.ask v).world).world

variable {q q' : Query}

theorem grows_ask (w : World) (q : Query) : w.Grows (q.ask w).world := by
  rcases q.aside_or_reads with ⟨answer, asked⟩ | ⟨answer, asked⟩
  · rw [(asked w).1]
    exact Grows.refl w
  · rw [(asked w).1]
    exact w.grows_tokens q.given

theorem valid_ask (valid : w.shelf.Valid) (q : Query) : (q.ask w).world.shelf.Valid := by
  rcases q.aside_or_reads with ⟨answer, asked⟩ | ⟨answer, asked⟩
  · rw [(asked w).1]
    exact valid
  · rw [(asked w).1]
    have leads : Leads (fun _ => True) w (w.tokens q.given).world :=
      leads_tokens (fun _ => trivial) (fun _ => trivial) w q.given
    exact leads.preserves (fun op v _ => op.valid_run v) valid

theorem CanAsk.ask (can : w.CanAsk q) (q' : Query) : (q'.ask w).world.CanAsk q :=
  fun h hh => Nat.lt_of_lt_of_le (can h hh) (w.grows_ask q').stores

/-- The answer to a question is the same after another question. -/
theorem ask_after_ask (valid : w.shelf.Valid) (can : w.CanAsk q) (can' : w.CanAsk q') :
    (q.ask (q'.ask w).world).result = (q.ask w).result := by
  obtain ⟨files, env, -⟩ := w.grows_ask q'
  rcases q.aside_or_reads with ⟨answer, asked⟩ | ⟨answer, asked⟩
  · rw [(asked _).2, (asked w).2, files, env]
  · rw [(asked _).2, (asked w).2]
    rcases q'.aside_or_reads with ⟨answer', asked'⟩ | ⟨answer', asked'⟩
    · rw [(asked' w).1]
    · rw [(asked' w).1, tokens_after_tokens valid can can']

theorem ask_comm (valid : w.shelf.Valid) (can : w.CanAsk q) (can' : w.CanAsk q') :
    (q'.ask (q.ask w).world).world = (q.ask (q'.ask w).world).world := by
  rcases q.aside_or_reads with ⟨answer, asked⟩ | ⟨answer, asked⟩
  · rw [(asked w).1, (asked _).1]
  · rcases q'.aside_or_reads with ⟨answer', asked'⟩ | ⟨answer', asked'⟩
    · rw [(asked' w).1, (asked' _).1]
    · rw [(asked w).1, (asked' w).1, (asked' _).1, (asked _).1, tokens_comm valid can can']

/-- Questions leave everything as it was for the questions that follow. -/
theorem reads_do_not_interfere (w : World) (questions : List Query) (valid : w.shelf.Valid)
    (can : ∀ q ∈ questions, w.CanAsk q) : w.ReadsAlike (Query.askAll w questions) := by
  induction questions generalizing w with
  | nil =>
    refine ⟨rfl, rfl, fun _ _ => rfl, fun q q' canAsk canAsk' => ⟨?_, ?_, ?_⟩⟩
    · exact ask_after_ask valid canAsk' canAsk
    · exact ask_after_ask valid canAsk canAsk'
    · exact ask_comm valid canAsk canAsk'
  | cons first rest ih =>
    have canFirst := can first List.mem_cons_self
    obtain ⟨files, env, -⟩ := w.grows_ask first
    have later := ih (first.ask w).world (valid_ask valid first) fun q hq =>
      (can q (List.mem_cons_of_mem _ hq)).ask first
    refine ⟨later.files.trans files, later.environment.trans env, fun q canAsk => ?_,
      fun q q' canAsk canAsk' => later.either q q' (canAsk.ask first) (canAsk'.ask first)⟩
    exact (later.answers q (canAsk.ask first)).trans (ask_after_ask valid canAsk canFirst)

/-- A document that the environment names, and a store of a file that is no document. -/
def drafting : World :=
  ⟨⟨[(["tokens.json"], .file (Text.Utf8.encode "\x7b\"a\": 1\x7d".toList) 1),
    (["draft.json"], .file [] 2)], [], ["theme"], 2⟩,
    [(Environment.tokensName, "tokens.json")], ⟨[.ofPath (.ofString "draft.json")], []⟩⟩

/-- Questions about the default store, which is not on the shelf yet, and about the draft. -/
theorem reads_do_not_interfere_drafting :
    let questions := [.themeCss "Reveal" none, .tokens (some 0), .cssVariables none,
      .themePath "base" none, .inlineStyles true (some 0)]
    drafting.shelf.Valid ∧ (∀ q ∈ questions, drafting.CanAsk q) ∧
      drafting.ReadsAlike (Query.askAll drafting questions) := by
  intro questions
  have valid : drafting.shelf.Valid := Shelf.valid_of_nil rfl
  have can : ∀ q ∈ questions, drafting.CanAsk q := by
    simp [questions, CanAsk, Holds, Query.given, drafting]
  exact ⟨valid, can, reads_do_not_interfere drafting questions valid can⟩

end World

end DesignTokens
