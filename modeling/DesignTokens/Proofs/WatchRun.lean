import DesignTokens.Watch
import DesignTokens.Proofs.Session
import DesignTokens.Proofs.StoreCache
import DesignTokens.Proofs.Writing
import Mathlib.Logic.Function.Iterate

/-!
# Watch mode step by step

A build in watch mode is not one step: it reads the document, makes the output directory and stores
one artifact after the other, and other processes change files in between. Here it is taken apart
into such parts, which put together are the build, and a watch becomes a step relation.
-/

namespace DesignTokens

/-- What remains to be done of a build: read the document, make the output directory, store the
artifacts, or tell the result. -/
inductive Part
  | reading
  | making (doc : Document)
  | storing (denied : Option ThemeError) (writing : Writing) (rest : List Artifact)
  | telling (result : Except Problem Report)

namespace Part

/-- A build that has read the document has a document to go on with or a problem to tell. -/
def afterReading : Except Problem Document → Part
  | .ok doc => .making doc
  | .error p => .telling (.error p)

/-- The next part of a build. Artifacts are stored among the files as they are by then, and there is
nothing left to do when the result is there. -/
def advance (output : Path) (h : Handle) : World × Part → World × Part
  | (w, .reading) =>
    let read := w.access h Store.reload
    (read.world, afterReading read.result)
  | (w, .making doc) =>
    let writing := writeArtifacts w.files [] output
    ({ w with files := writing.files },
      .storing (Writing.denial w.files output) writing (compile builtin doc))
  | (w, .storing denied writing (a :: rest)) =>
    let writing := Writing.add denied { writing with files := w.files } a
    ({ w with files := writing.files }, .storing denied writing rest)
  | (w, .storing _ writing []) => (w, .telling writing.result)
  | (w, .telling result) => (w, .telling result)

def hasRead : Part → Bool
  | .reading => false
  | _ => true

theorem hasRead_afterReading (result : Except Problem Document) :
    (afterReading result).hasRead = true := by
  cases result <;> rfl

theorem hasRead_advance (output : Path) (h : Handle) (w : World) (part : Part) :
    (advance output h (w, part)).2.hasRead = true := by
  cases part with
  | reading => exact hasRead_afterReading _
  | making doc => rfl
  | storing denied writing rest => cases rest <;> rfl
  | telling result => rfl

theorem hasRead_of_ne {part : Part} (later : part ≠ .reading) : part.hasRead = true := by
  cases part with
  | reading => exact absurd rfl later
  | making doc => rfl
  | storing denied writing rest => rfl
  | telling result => rfl

end Part

/-- Parts of a build lead from one point of it to another. -/
def Part.Leads (output : Path) (h : Handle) (x y : World × Part) : Prop :=
  ∃ n, (Part.advance output h)^[n] x = y

theorem Part.Leads.trans {output : Path} {h : Handle} {x y z : World × Part}
    (first : Part.Leads output h x y) (second : Part.Leads output h y z) :
    Part.Leads output h x z := by
  obtain ⟨n, rfl⟩ := first
  obtain ⟨m, rfl⟩ := second
  exact ⟨m + n, Function.iterate_add_apply _ m n x⟩

theorem Part.leads_advance (output : Path) (h : Handle) (x : World × Part) :
    Part.Leads output h x (Part.advance output h x) :=
  ⟨1, rfl⟩

theorem leads_storing (output : Path) (h : Handle) (denied : Option ThemeError)
    (rest : List Artifact) (w : World) (writing : Writing) (here : w.files = writing.files) :
    Part.Leads output h (w, .storing denied writing rest)
      ({ w with files := (rest.foldl (Writing.add denied) writing).files },
        .telling (rest.foldl (Writing.add denied) writing).result) := by
  induction rest generalizing w writing with
  | nil =>
    rw [List.foldl_nil, ← here]
    exact Part.leads_advance output h _
  | cons a rest ih =>
    have now : { writing with files := w.files } = writing := by rw [here]
    have first := Part.leads_advance output h (w, .storing denied writing (a :: rest))
    rw [Part.advance, now] at first
    exact first.trans (ih _ _ rfl)

/-- Part by part a build does what it does at once. -/
theorem leads_build (s : Settings) (h : Handle) (w : World) :
    Part.Leads s.output h (w, .reading)
      ((w.build s (some h)).world, .telling (w.build s (some h)).result) := by
  have first := Part.leads_advance s.output h (w, .reading)
  rw [Part.advance] at first
  rw [World.build, World.buildFrom, Outcome.andThen]
  cases hread : (w.access h Store.reload).result with
  | error p =>
    rw [hread] at first
    exact first
  | ok doc =>
    rw [hread] at first
    have made := Part.leads_advance s.output h ((w.access h Store.reload).world, .making doc)
    rw [Part.advance] at made
    have stored := leads_storing s.output h
      (Writing.denial (w.access h Store.reload).world.files s.output) (compile builtin doc)
      { (w.access h Store.reload).world with
        files := (writeArtifacts (w.access h Store.reload).world.files [] s.output).files }
      (writeArtifacts (w.access h Store.reload).world.files [] s.output) rfl
    rw [← writeArtifacts_eq_foldl] at stored
    exact first.trans (made.trans stored)

/-- A build in watch mode is answered unless it meets a problem that is no error of the theme
compiler. -/
theorem rebuild_isOk_iff (w : World) (s : Settings) (h : Handle) :
    (w.rebuild s h).result.isOk ↔
      ∀ p, (w.build s (some h)).result = .error p → p.isThemeError = true := by
  rw [World.rebuild]
  cases (w.build s (some h)).result with
  | ok r => simp [Except.isOk, Except.toBool]
  | error p =>
    by_cases hp : p.isThemeError = true <;> simp [hp, Except.isOk, Except.toBool]

/-- Where a watch is: before its baseline, in its first or in a later build, between polls, in a
poll that has looked at the file and not acted yet, or at an end before any poll. -/
inductive Phase
  | fresh
  | building (first : Bool) (part : Part)
  | idle
  | polled (next : Watcher) (changed : Bool)
  | ended

/-- A watch in the middle of a run, with the time of the latest save, what the latest build took for
the document, and how many saves and rebuilds there were. -/
structure WatchState where
  world : World
  watcher : Watcher
  phase : Phase
  latest : Time
  taken : Option (Except Problem Document)
  saves : Nat
  rebuilds : Nat

/-- The path that a store opens. -/
def World.opens (w : World) (h : Handle) : Path := (w.shelf.store h).path

/-- The store that a watch asks for opens the path that is watched, unless another path to the same
place was asked for before. -/
theorem opens_share {w : World} {path : Path} {h : Handle} (asked : (w.share path).result = .ok h)
    (fresh : w.shelf.shared.lookup (w.files.resolve path) = none) :
    (w.share path).world.opens h = path := by
  cases nul : path.hasNul with
  | true =>
    rw [World.share, nul] at asked
    cases asked
  | false =>
    simp only [World.share, nul, Shelf.share, fresh, Shelf.add] at asked ⊢
    rw [← Except.ok.inj asked]
    simp [World.opens, Shelf.store, Store.ofPath]

/-- What a build takes for its document is what the file holds that its store opens. -/
theorem taken_of_read {w : World} {h : Handle} {octets : List UInt8}
    (read : w.files.read (w.opens h) = .ok octets) :
    (w.access h Store.reload).result = (parseDocument (w.opens h) octets).mapError .load := by
  rw [World.access, Store.result_reload, FileTree.load, ← World.opens, read]

theorem opens_reload (w : World) (h : Handle) : (w.access h Store.reload).world.opens h = w.opens h := by
  have path : (w.shelf.store h).path = ((w.shelf.store h).reload w.files).store.path := by
    rw [Store.store_reload]
  exact Shelf.path_setStore _ h path.symm

theorem opens_advance (output : Path) (h : Handle) (w : World) (part : Part) :
    (Part.advance output h (w, part)).1.opens h = w.opens h := by
  cases part with
  | reading => exact opens_reload w h
  | making doc => rfl
  | storing denied writing rest => cases rest <;> rfl
  | telling result => rfl

/-- What can happen next in a watch. Saves, deletions and anything that leaves the document alone
happen at any time; saves get later and later times, and the build leaves the document alone. Nothing
changes the path that a store opens. -/
inductive WatchStep (s : Settings) (h : Handle) (x : WatchState) : WatchState → Prop
  | snapshot {watcher : Watcher} (here : x.phase = .fresh)
    (taken : (Watcher.ofPath s.tokens).snapshot x.world.files = .ok watcher) :
    WatchStep s h x { x with watcher := watcher, phase := .building true .reading }
  | refuse {p : Problem} (here : x.phase = .fresh)
    (refused : (Watcher.ofPath s.tokens).snapshot x.world.files = .error p) :
    WatchStep s h x { x with phase := .ended }
  | read {first : Bool} (here : x.phase = .building first .reading) :
    WatchStep s h x { x with
      world := (x.world.access h Store.reload).world
      phase := .building first (.afterReading (x.world.access h Store.reload).result)
      taken := some (x.world.access h Store.reload).result }
  | work {first : Bool} {part : Part} (here : x.phase = .building first part)
    (later : part ≠ .reading)
    (spared : (Part.advance s.output h (x.world, part)).1.files.view s.tokens =
      x.world.files.view s.tokens) :
    WatchStep s h x { x with
      world := (Part.advance s.output h (x.world, part)).1
      phase := .building first (Part.advance s.output h (x.world, part)).2 }
  | returns {first : Bool} {result : Except Problem Report}
    (here : x.phase = .building first (.telling result))
    (answered : ∀ p, result = .error p → p.isThemeError = true) :
    WatchStep s h x { x with phase := .idle }
  | raises {first : Bool} {result : Except Problem Report}
    (here : x.phase = .building first (.telling result)) :
    WatchStep s h x { x with phase := if first then .ended else .idle }
  | poll {next : Watcher} {changed : Bool} (here : x.phase = .idle)
    (asked : x.watcher.poll x.world.files = .ok (next, changed)) :
    WatchStep s h x { x with phase := .polled next changed }
  | settle {next : Watcher} (here : x.phase = .polled next false) :
    WatchStep s h x { x with watcher := next, phase := .idle }
  | rebuild {next : Watcher} (here : x.phase = .polled next true) :
    WatchStep s h x { x with
      watcher := next, phase := .building false .reading, rebuilds := x.rebuilds + 1 }
  | save {files : FileTree} {octets : List UInt8} {time : Time} (later : x.latest < time)
    (stored : files.view s.tokens = some (.file octets time)) :
    WatchStep s h x { x with
      world := { x.world with files := files }, latest := time, saves := x.saves + 1 }
  | delete {files : FileTree} (gone : files.view s.tokens = none) :
    WatchStep s h x { x with world := { x.world with files := files } }
  | aside {w : World} (same : w.files.view s.tokens = x.world.files.view s.tokens)
    (opens : w.opens h = x.world.opens h) :
    WatchStep s h x { x with world := w }

/-- The states of all runs of a watch with a store. At the start there may be a document, which counts
as saved before. -/
inductive WatchReached (s : Settings) (h : Handle) : WatchState → Prop
  | start {w : World} {watcher : Watcher} {latest : Time} {taken : Option (Except Problem Document)}
    (before : ∀ n, w.files.view s.tokens = some n → n.modified ≤ latest) :
    WatchReached s h ⟨w, watcher, .fresh, latest, taken, 0, 0⟩
  | step {x y : WatchState} (reached : WatchReached s h x) (step : WatchStep s h x y) :
    WatchReached s h y

/-- However far it gets, a build leaves the document alone. -/
def World.BuildSpares (s : Settings) (h : Handle) (w : World) : Prop :=
  ∀ n, ((Part.advance s.output h)^[n] (w, .reading)).1.files.view s.tokens = w.files.view s.tokens

variable {s : Settings} {h : Handle} {x : WatchState}

theorem reached_advance {first : Bool} (reached : WatchReached s h x)
    (here : x.phase = .building first .reading) (spares : x.world.BuildSpares s h) (n : Nat) :
    WatchReached s h { x with
      world := ((Part.advance s.output h)^[n + 1] (x.world, .reading)).1
      phase := .building first ((Part.advance s.output h)^[n + 1] (x.world, .reading)).2
      taken := some (x.world.access h Store.reload).result } := by
  induction n with
  | zero => exact reached.step (.read here)
  | succ n ih =>
    have later : ((Part.advance s.output h)^[n + 1] (x.world, .reading)).2 ≠ .reading := by
      intro again
      have read := Part.hasRead_advance s.output h
        ((Part.advance s.output h)^[n] (x.world, .reading)).1
        ((Part.advance s.output h)^[n] (x.world, .reading)).2
      rw [Function.iterate_succ_apply'] at again
      rw [again] at read
      cases read
    have spared := (spares (n + 2)).trans (spares (n + 1)).symm
    rw [Function.iterate_succ_apply' _ (n + 1)] at spared ⊢
    exact ih.step (.work rfl later spared)

/-- A build that nothing disturbs is a run of its parts. -/
theorem reached_build {first : Bool} (reached : WatchReached s h x)
    (here : x.phase = .building first .reading) (spares : x.world.BuildSpares s h) :
    WatchReached s h { x with
      world := (x.world.build s (some h)).world
      phase := .building first (.telling (x.world.build s (some h)).result)
      taken := some (x.world.access h Store.reload).result } := by
  obtain ⟨n, hn⟩ := leads_build s h x.world
  cases n with
  | zero => cases congrArg Prod.snd hn
  | succ n =>
    have built := reached_advance reached here spares n
    rw [hn] at built
    exact built

theorem view_of_spares {w : World} (spares : w.BuildSpares s h) :
    (w.build s (some h)).world.files.view s.tokens = w.files.view s.tokens := by
  obtain ⟨n, hn⟩ := leads_build s h w
  have same := spares n
  rw [hn] at same
  exact same

theorem opens_build (s : Settings) (h : Handle) (w : World) :
    (w.build s (some h)).world.opens h = w.opens h := by
  have kept (n : Nat) : ((Part.advance s.output h)^[n] (w, .reading)).1.opens h = w.opens h := by
    induction n with
    | zero => rfl
    | succ n ih =>
      rw [Function.iterate_succ_apply', opens_advance, ih]
  obtain ⟨n, hn⟩ := leads_build s h w
  have same := kept n
  rw [hn] at same
  exact same

/-- A build that is answered is over, and the watch goes on. -/
theorem reached_answered {first : Bool} (reached : WatchReached s h x)
    (here : x.phase = .building first .reading) (spares : x.world.BuildSpares s h)
    (answered : ∀ p, (x.world.build s (some h)).result = .error p → p.isThemeError = true) :
    WatchReached s h { x with
      world := (x.world.build s (some h)).world
      phase := .idle
      taken := some (x.world.access h Store.reload).result } :=
  (reached_build reached here spares).step (.returns rfl answered)

theorem rebuildTelling_world {α : Type} (w : World) (s : Settings) (h : Handle) (tell : Telling α) :
    (w.rebuildTelling s h tell).world = (w.build s (some h)).world := by
  have rebuilt : (w.rebuild s h).world = (w.build s (some h)).world := by
    rw [World.rebuild]
    cases (w.build s (some h)).result with
    | ok r => rfl
    | error p =>
      dsimp only
      split <;> rfl
  rw [World.rebuildTelling, Outcome.andThen, ← rebuilt]
  cases (w.rebuild s h).result <;> rfl

theorem answered_of_isOk {result : Except Problem Report} (ok : result.isOk = true) (p : Problem)
    (failed : result = .error p) : p.isThemeError = true := by
  rw [failed] at ok
  cases ok

/-- A build that is told is answered. -/
theorem reached_told {α : Type} {tell : Telling α} {a : α} {first : Bool}
    (reached : WatchReached s h x) (here : x.phase = .building first .reading)
    (spares : x.world.BuildSpares s h) (told : (x.world.rebuildTelling s h tell).result = .ok a) :
    WatchReached s h { x with
      world := (x.world.rebuildTelling s h tell).world
      phase := .idle
      taken := some (x.world.access h Store.reload).result } := by
  obtain ⟨r, answer, -, -⟩ := Outcome.andThen_ok told
  rw [rebuildTelling_world]
  exact reached_answered reached here spares
    ((rebuild_isOk_iff x.world s h).mp (by rw [answer]; rfl))

/-- A poll with the build that it causes is a run. -/
theorem reached_poll {α : Type} {tell : Telling α} (reached : WatchReached s h x)
    (idle : x.phase = .idle) (spares : x.world.BuildSpares s h) (told : List α) (log : Log) :
    ∃ y, WatchReached s h y ∧ y.phase = .idle ∧
      y.world = (Watching.step s h tell ⟨x.world, x.watcher, told, log⟩).world ∧
      y.watcher = (Watching.step s h tell ⟨x.world, x.watcher, told, log⟩).watcher := by
  rw [Watching.step]
  dsimp only
  cases asked : x.watcher.poll x.world.files with
  | error p => exact ⟨x, reached, idle, rfl, rfl⟩
  | ok answer =>
    obtain ⟨next, changed⟩ := answer
    have polled := reached.step (.poll idle asked)
    cases changed with
    | false => exact ⟨_, polled.step (.settle rfl), rfl, rfl, rfl⟩
    | true =>
      have building := polled.step (.rebuild rfl)
      dsimp only
      cases built : (x.world.rebuildTelling s h tell).result with
      | ok a => exact ⟨_, reached_told building rfl spares built, rfl, rfl, rfl⟩
      | error p =>
        have ended := (reached_build building rfl spares).step (.raises rfl)
        exact ⟨_, ended, rfl, (rebuildTelling_world x.world s h tell).symm, rfl⟩

/-- The start of a watch is a run. -/
theorem reached_startWatch {α : Type} {tell : Telling α} {w : World} {started : Watching α}
    (spares : w.BuildSpares s h)
    (start : (w.startWatch s h tell).result = .ok started) :
    ∃ y, WatchReached s h y ∧ y.phase = .idle ∧ y.world = started.world ∧
      y.watcher = started.watcher := by
  obtain ⟨latest, before⟩ : ∃ latest, ∀ n,
      w.files.view s.tokens = some n → n.modified ≤ latest := by
    cases w.files.view s.tokens with
    | none => exact ⟨0, fun n hn => by cases hn⟩
    | some n => exact ⟨n.modified, fun n' hn => Option.some.inj hn ▸ Int.le_refl _⟩
  have fresh : WatchReached s h ⟨w, .ofPath s.tokens, .fresh, latest, none, 0, 0⟩ :=
    .start before
  rw [World.startWatch] at start
  split at start
  · cases start
  · rename_i watcher taken
    obtain ⟨first, told, same, -⟩ := Outcome.andThen_ok start
    have building := fresh.step (.snapshot rfl taken)
    rw [← Except.ok.inj same]
    exact ⟨_, reached_told building rfl spares told, rfl, rfl, rfl⟩

end DesignTokens
