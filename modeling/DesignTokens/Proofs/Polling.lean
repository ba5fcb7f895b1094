import DesignTokens.Proofs.LostUpdate

/-!
# What a watcher notices

A watcher remembers one time. Whatever happens to the file, a check compares it with what the last
look before it saw, and notices a file that was not there or has got a later time. A file that has
got an earlier time is not noticed.
-/

namespace DesignTokens

/-- What runs when a file changed. It may change files, and it may fail. -/
abbrev Callback := World → Outcome Unit

/-- What can happen to a watcher and its file: the files change in any way, the watcher takes a
baseline, or it checks. -/
inductive PollEvent
  | files (t : FileTree)
  | snapshot
  | check (callback : Callback)

/-- A watcher in a run, with the paths its callbacks were given and what was logged. -/
structure Polling where
  world : World
  watcher : Watcher
  calls : List Path
  log : Log

namespace Polling

def start (path : Path) (w : World) : Polling := ⟨w, .ofPath path, [], []⟩

def outcomeLog : Except Problem Unit → Log
  | .ok _ => []
  | .error _ => [callbackLine]

/-- One check: a poll that runs the callback on a change. The failure of a callback is logged. -/
def check (x : Polling) (callback : Callback) : Polling × Except Problem Bool :=
  match x.watcher.poll x.world.files with
  | .error p => (x, .error p)
  | .ok (watcher, false) => ({ x with watcher := watcher }, .ok false)
  | .ok (watcher, true) =>
    let called := callback x.world
    (⟨called.world, watcher, x.calls ++ [watcher.path],
      x.log ++ (called.log ++ outcomeLog called.result)⟩, .ok true)

def step (x : Polling) : PollEvent → Polling
  | .files t => { x with world := { x.world with files := t } }
  | .snapshot =>
    match x.watcher.snapshot x.world.files with
    | .ok watcher => { x with watcher := watcher }
    | .error _ => x
  | .check callback => (x.check callback).1

def run (x : Polling) (events : List PollEvent) : Polling := events.foldl step x

/-- The time of the file, if it is there. -/
def sight (x : Polling) : Option Time := x.world.files.modified? x.watcher.path

/-- What snapshots and checks see of the file in a run. -/
def sights (x : Polling) : List PollEvent → List (Option Time)
  | [] => []
  | .files t :: rest => (x.step (.files t)).sights rest
  | .snapshot :: rest => x.sight :: (x.step .snapshot).sights rest
  | .check callback :: rest => x.sight :: (x.step (.check callback)).sights rest

/-- What the last snapshot or check of a run saw; nothing if there was none. -/
def lastSight (x : Polling) (events : List PollEvent) : Option Time :=
  (x.sights events).getLastD none

end Polling

/-- A file is there that was not, or one with a later time. -/
def Later (before now : Option Time) : Prop :=
  ∃ time, now = some time ∧ ∀ b, before = some b → b < time

namespace Polling

variable {x : Polling}

theorem changed_iff_later (x : Polling) :
    x.watcher.changed x.world.files = true ↔ Later x.watcher.baseline x.sight := by
  rw [Watcher.changed_iff, Later, sight, FileTree.modified?_eq]
  constructor
  · rintro ⟨n, hn, later⟩
    exact ⟨n.modified, by rw [hn]; rfl, later⟩
  · rintro ⟨time, ht, later⟩
    obtain ⟨n, hn, rfl⟩ := Option.map_eq_some_iff.mp ht
    exact ⟨n, hn, later⟩

/-- What a check comes to: it is refused, it finds no change, or it runs the callback. -/
theorem check_cases (x : Polling) (callback : Callback) :
    (∃ p, x.watcher.path.hasNul = true ∧ x.check callback = (x, .error p)) ∨
    (¬ Later x.watcher.baseline x.sight ∧
      x.check callback = ({ x with watcher := ⟨x.watcher.path, x.sight⟩ }, .ok false)) ∨
    (Later x.watcher.baseline x.sight ∧
      x.check callback =
        (⟨(callback x.world).world, ⟨x.watcher.path, x.sight⟩, x.calls ++ [x.watcher.path],
          x.log ++ ((callback x.world).log ++ outcomeLog (callback x.world).result)⟩,
          .ok true)) := by
  have told := changed_iff_later x
  by_cases nul : x.watcher.path.hasNul = true
  · refine Or.inl ⟨.file ⟨.nul, x.watcher.path⟩, nul, ?_⟩
    rw [check, Watcher.poll, Watcher.snapshot, if_pos nul]
    rfl
  · have polled : x.watcher.poll x.world.files =
        .ok (⟨x.watcher.path, x.sight⟩, x.watcher.changed x.world.files) := by
      rw [Watcher.poll, Watcher.snapshot, if_neg nul]
      rfl
    cases hc : x.watcher.changed x.world.files with
    | false =>
      rw [hc] at told polled
      refine Or.inr (Or.inl ⟨fun later => Bool.false_ne_true (told.mpr later), ?_⟩)
      rw [check, polled]
    | true =>
      rw [hc] at told polled
      refine Or.inr (Or.inr ⟨told.mp rfl, ?_⟩)
      rw [check, polled]

theorem sight_of_hasNul (nul : x.watcher.path.hasNul = true) : x.sight = none := by
  rw [sight, FileTree.modified?_eq]
  cases shown : x.world.files.view x.watcher.path with
  | none => rfl
  | some n =>
    rw [FileTree.hasNul_of_view shown] at nul
    cases nul

/-- A later time is noticed and remembered, and the callback runs. -/
theorem check_of_later (callback : Callback) (later : Later x.watcher.baseline x.sight) :
    (x.check callback).2 = .ok true ∧
      (x.check callback).1.calls = x.calls ++ [x.watcher.path] ∧
      (x.check callback).1.world = (callback x.world).world := by
  rcases x.check_cases callback with ⟨p, nul, -⟩ | ⟨quiet, -⟩ | ⟨-, hx⟩
  · obtain ⟨time, seen, -⟩ := later
    rw [sight_of_hasNul nul] at seen
    cases seen
  · exact absurd later quiet
  · rw [hx]
    exact ⟨rfl, rfl, rfl⟩

/-- Nothing else is, and then the callback does not run. -/
theorem check_of_not_later (callback : Callback) (quiet : ¬ Later x.watcher.baseline x.sight) :
    (x.check callback).2 ≠ .ok true ∧ (x.check callback).1.calls = x.calls ∧
      (x.check callback).1.world = x.world := by
  rcases x.check_cases callback with ⟨p, -, hx⟩ | ⟨-, hx⟩ | ⟨later, -⟩
  · rw [hx]
    refine ⟨?_, rfl, rfl⟩
    intro told
    cases told
  · rw [hx]
    refine ⟨?_, rfl, rfl⟩
    intro told
    cases told
  · exact absurd later quiet

/-- A poll of watch mode is a check whose callback builds. -/
theorem step_eq_check {α : Type} (s : Settings) (h : Handle) (tell : Telling α) (y : Watching α) :
    let checked := Polling.check ⟨y.world, y.watcher, [], y.log⟩ fun w =>
      ⟨(w.rebuildTelling s h tell).world, (w.rebuildTelling s h tell).result.map fun _ => (),
        changedLine y.watcher.path :: (w.rebuildTelling s h tell).log⟩
    (y.step s h tell).world = checked.1.world ∧ (y.step s h tell).watcher = checked.1.watcher ∧
      (y.step s h tell).log = checked.1.log := by
  dsimp only
  rw [Watching.step, check]
  dsimp only
  cases asked : y.watcher.poll y.world.files with
  | error p => exact ⟨rfl, rfl, rfl⟩
  | ok answer =>
    obtain ⟨next, changed⟩ := answer
    cases changed with
    | false => exact ⟨rfl, rfl, rfl⟩
    | true =>
      have same : next.path = y.watcher.path := by
        rw [Watcher.snapshot_ok (Watcher.poll_ok asked).1]
      dsimp only
      rw [same]
      cases (y.world.rebuildTelling s h tell).result with
      | ok a => exact ⟨rfl, rfl, by rw [Except.map, outcomeLog, List.append_nil]⟩
      | error p => exact ⟨rfl, rfl, by rw [Except.map, outcomeLog, List.append_assoc]⟩

theorem path_step (x : Polling) (e : PollEvent) : (x.step e).watcher.path = x.watcher.path := by
  cases e with
  | files t => rfl
  | snapshot =>
    rw [step]
    cases taken : x.watcher.snapshot x.world.files with
    | error p => rfl
    | ok next =>
      dsimp only
      rw [Watcher.snapshot_ok taken]
  | check callback =>
    rcases x.check_cases callback with ⟨p, -, hx⟩ | ⟨-, hx⟩ | ⟨-, hx⟩ <;> rw [step, hx]

theorem path_run (x : Polling) (events : List PollEvent) :
    (x.run events).watcher.path = x.watcher.path := by
  induction events generalizing x with
  | nil => rfl
  | cons e rest ih => exact (ih (x.step e)).trans (x.path_step e)

/-- A watcher whose path no file can have remembers nothing. -/
def Honest (x : Polling) : Prop := x.watcher.path.hasNul = true → x.watcher.baseline = none

/-- After a snapshot the watcher remembers what it has seen. -/
theorem baseline_snapshot (honest : x.Honest) :
    (x.step .snapshot).watcher.baseline = x.sight := by
  rw [step]
  by_cases nul : x.watcher.path.hasNul = true
  · rw [Watcher.snapshot, if_pos nul]
    exact (honest nul).trans (sight_of_hasNul nul).symm
  · rw [Watcher.snapshot, if_neg nul]
    rfl

/-- After a check as well, whatever became of it. -/
theorem baseline_check (honest : x.Honest) (callback : Callback) :
    (x.step (.check callback)).watcher.baseline = x.sight := by
  rcases x.check_cases callback with ⟨p, nul, hx⟩ | ⟨-, hx⟩ | ⟨-, hx⟩
  · rw [step, hx]
    exact (honest nul).trans (sight_of_hasNul nul).symm
  · rw [step, hx]
  · rw [step, hx]

theorem Honest.step (honest : x.Honest) (e : PollEvent) : (x.step e).Honest := by
  intro nul
  rw [path_step] at nul
  cases e with
  | files t => exact honest nul
  | snapshot => rw [baseline_snapshot honest, sight_of_hasNul nul]
  | check callback => rw [baseline_check honest, sight_of_hasNul nul]

/-- What a watcher remembers is what it saw last. -/
theorem baseline_run (honest : x.Honest) (events : List PollEvent) :
    (x.run events).watcher.baseline = (x.sights events).getLastD x.watcher.baseline := by
  induction events generalizing x with
  | nil => rfl
  | cons e rest ih =>
    have later := ih (honest.step e)
    rw [run, List.foldl_cons, ← run, later]
    cases e with
    | files t => rfl
    | snapshot => rw [baseline_snapshot honest, sights, List.getLastD_cons]
    | check callback => rw [baseline_check honest, sights, List.getLastD_cons]

/-- A check tells of a change, and runs its callback, exactly if the file is there and was not there
at the last look or is later than it was then. -/
theorem check_notices_later_times (path : Path) (w : World) (events : List PollEvent)
    (callback : Callback) :
    let x := (start path w).run events
    let change := Later ((start path w).lastSight events) (x.world.files.modified? path)
    ((x.check callback).2 = .ok true ↔ change) ∧
      (change → (x.check callback).1.calls = x.calls ++ [path] ∧
        (x.check callback).1.world = (callback x.world).world) ∧
      (¬ change → (x.check callback).1.calls = x.calls ∧
        (x.check callback).1.world = x.world) := by
  intro x change
  have named : x.watcher.path = path := path_run (start path w) events
  have same : Later x.watcher.baseline x.sight ↔ change := by
    rw [baseline_run (x := start path w) (fun _ => rfl) events, sight, named]
    rfl
  refine ⟨⟨?_, ?_⟩, ?_, ?_⟩
  · intro told
    by_contra unchanged
    exact (check_of_not_later callback fun later => unchanged (same.mp later)).1 told
  · intro changed
    exact (check_of_later callback (same.mpr changed)).1
  · intro changed
    rw [← named]
    exact (check_of_later callback (same.mpr changed)).2
  · intro unchanged
    exact (check_of_not_later callback fun later => unchanged (same.mp later)).2

/-- A document that was saved at a time. -/
def savedAt (time : Time) : FileTree :=
  { nodes := [(["tokens.json"], .file [] time)], working := [], bundled := ["theme"], clock := 0 }

/-- A document whose time is set back has changed without being noticed. -/
theorem backdated_file_is_unnoticed :
    let path := Settings.nearby.tokens
    let first := start path ⟨savedAt 2000, [], .empty⟩
    let events := [.snapshot, .files (savedAt 1000)]
    first.lastSight events = some 2000 ∧
      (first.run events).world.files.modified? path = some 1000 ∧
      ((first.run events).check fun w => ⟨w, .ok (), []⟩).2 = .ok false := by
  decide +kernel

end Polling

end DesignTokens
