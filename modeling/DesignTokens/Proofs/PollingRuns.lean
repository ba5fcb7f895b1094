import DesignTokens.Proofs.Polling

/-!
# Polls over whole runs

Whatever becomes of its callbacks, a watcher goes on in the same way. It does not call for a file
that is missing, it calls once for one that has come back, and it is still while nothing happens to
the file. A snapshot counts as a look: what has come back before it is known.
-/

namespace DesignTokens

/-- A callback that does the same and does not fail. -/
def Callback.calm (callback : Callback) : Callback := fun w => { callback w with result := .ok () }

def PollEvent.calm : PollEvent → PollEvent
  | .files t => .files t
  | .snapshot => .snapshot
  | .check callback => .check (Callback.calm callback)

/-- An event that is no check and leaves the file at a path as it was last seen. -/
def PollEvent.Spares (path : Path) (seen : Option Time) : PollEvent → Prop
  | .files t => t.modified? path = seen
  | .snapshot => True
  | .check _ => False

namespace Polling

/-- What the checks of a run answer. -/
def answers (x : Polling) : List PollEvent → List (Except Problem Bool)
  | [] => []
  | .files t :: rest => (x.step (.files t)).answers rest
  | .snapshot :: rest => (x.step .snapshot).answers rest
  | .check callback :: rest => (x.check callback).2 :: (x.step (.check callback)).answers rest

/-- A check calls back once, and says so. -/
def Calls (x : Polling) (callback : Callback) : Prop :=
  (x.check callback).2 = .ok true ∧ (x.check callback).1.calls = x.calls ++ [x.watcher.path]

/-- A check does not call back. -/
def Rests (x : Polling) (callback : Callback) : Prop :=
  (x.check callback).2 ≠ .ok true ∧ (x.check callback).1.calls = x.calls

variable {x y : Polling}

/-- Two states that differ at most in what was logged. -/
structure Alike (x y : Polling) : Prop where
  world : x.world = y.world
  watcher : x.watcher = y.watcher
  calls : x.calls = y.calls

theorem Alike.sight (alike : Alike x y) : x.sight = y.sight := by
  rw [Polling.sight, Polling.sight, alike.world, alike.watcher]

/-- A callback that fails is called like one that does the same and does not fail. -/
theorem Alike.check (alike : Alike x y) (callback : Callback) :
    (x.check (Callback.calm callback)).2 = (y.check callback).2 ∧
      Alike (x.check (Callback.calm callback)).1 (y.check callback).1 := by
  rw [Polling.check, Polling.check, ← alike.watcher, ← alike.world]
  cases x.watcher.poll x.world.files with
  | error p => exact ⟨rfl, alike⟩
  | ok answer =>
    obtain ⟨next, changed⟩ := answer
    cases changed with
    | false => exact ⟨rfl, rfl, rfl, alike.calls⟩
    | true => exact ⟨rfl, rfl, rfl, congrArg (· ++ [next.path]) alike.calls⟩

theorem Alike.step (alike : Alike x y) (e : PollEvent) : Alike (x.step e.calm) (y.step e) := by
  cases e with
  | files t =>
    exact ⟨congrArg (fun w => { w with files := t }) alike.world, alike.watcher, alike.calls⟩
  | snapshot =>
    rw [PollEvent.calm, Polling.step, Polling.step, ← alike.watcher, ← alike.world]
    cases x.watcher.snapshot x.world.files with
    | error p => exact alike
    | ok next => exact ⟨rfl, rfl, alike.calls⟩
  | check callback => exact (alike.check callback).2

/-- A run in which no callback fails comes to the same state, but for the log. -/
theorem Alike.run (alike : Alike x y) (events : List PollEvent) :
    Alike (x.run (events.map .calm)) (y.run events) := by
  induction events generalizing x y with
  | nil => exact alike
  | cons e rest ih => exact ih (alike.step e)

theorem Alike.answers (alike : Alike x y) (events : List PollEvent) :
    x.answers (events.map .calm) = y.answers events := by
  induction events generalizing x y with
  | nil => rfl
  | cons e rest ih =>
    have behind := ih (alike.step e)
    cases e with
    | files t => exact behind
    | snapshot => exact behind
    | check callback => exact congrArg₂ List.cons (alike.check callback).1 behind

/-- A check is answered if a file can have the path that is watched. -/
theorem answered (named : x.watcher.path.hasNul = false) (events : List PollEvent) :
    ∀ answer ∈ x.answers events, ∃ changed, answer = .ok changed := by
  induction events generalizing x with
  | nil => simp [answers]
  | cons e rest ih =>
    have behind := ih (x := x.step e) (by rw [path_step, named])
    cases e with
    | files t => exact behind
    | snapshot => exact behind
    | check callback =>
      refine List.forall_mem_cons.mpr ⟨?_, behind⟩
      rcases x.check_cases callback with ⟨p, nul, -⟩ | ⟨-, hx⟩ | ⟨-, hx⟩
      · rw [named] at nul
        cases nul
      · exact ⟨false, by rw [hx]⟩
      · exact ⟨true, by rw [hx]⟩

theorem not_later_none (before : Option Time) : ¬ Later before none := by
  rintro ⟨time, seen, -⟩
  cases seen

theorem not_later_self (time : Option Time) : ¬ Later time time := by
  rintro ⟨t, rfl, later⟩
  exact Int.lt_irrefl t (later t rfl)

theorem later_of_none {now : Option Time} (there : now ≠ none) : Later none now := by
  obtain ⟨time, rfl⟩ := Option.ne_none_iff_exists'.mp there
  exact ⟨time, rfl, fun b known => by cases known⟩

theorem rests_of_not_later (callback : Callback) (quiet : ¬ Later x.watcher.baseline x.sight) :
    x.Rests callback :=
  ⟨(check_of_not_later callback quiet).1, (check_of_not_later callback quiet).2.1⟩

theorem calls_of_later (callback : Callback) (later : Later x.watcher.baseline x.sight) :
    x.Calls callback :=
  ⟨(check_of_later callback later).1, (check_of_later callback later).2.1⟩

theorem Honest.run (honest : x.Honest) (events : List PollEvent) : (x.run events).Honest := by
  induction events generalizing x with
  | nil => exact honest
  | cons e rest ih => exact ih (honest.step e)

theorem honest_start (path : Path) (w : World) : (start path w).Honest := fun _ => rfl

/-- A file that no look has seen since a check saw it missing is new when it is seen. -/
theorem calls_of_return (honest : x.Honest) (missing : x.sight = none) (first last : Callback)
    {between : List PollEvent}
    (unseen : ∀ seen ∈ (x.step (.check first)).sights between, seen = none)
    (back : ((x.step (.check first)).run between).sight ≠ none) :
    ((x.step (.check first)).run between).Calls last := by
  refine calls_of_later last ?_
  have known := baseline_run (honest.step (.check first)) between
  rw [baseline_check honest, missing] at known
  have nothing : ((x.step (.check first)).sights between).getLastD none = none := by
    rw [List.getLastD_eq_getLast?]
    cases last : ((x.step (.check first)).sights between).getLast? with
    | none => rfl
    | some seen => exact unseen seen (List.mem_of_getLast? last)
  rw [known, nothing]
  exact later_of_none back

theorem world_snapshot (x : Polling) : (x.step .snapshot).world = x.world := by
  rw [step]
  cases x.watcher.snapshot x.world.files <;> rfl

/-- Events that leave the file alone leave a watcher that has seen it as it is. -/
theorem seen_of_spares {seen : Option Time} (honest : x.Honest) (here : x.sight = seen)
    (known : x.watcher.baseline = seen) {events : List PollEvent}
    (spares : ∀ e ∈ events, e.Spares x.watcher.path seen) :
    (x.run events).sight = seen ∧ (x.run events).watcher.baseline = seen := by
  induction events generalizing x with
  | nil => exact ⟨here, known⟩
  | cons e rest ih =>
    rw [List.forall_mem_cons] at spares
    have later : ∀ e' ∈ rest, e'.Spares (x.step e).watcher.path seen := by
      rw [path_step]
      exact spares.2
    cases e with
    | files t => exact ih honest spares.1 known later
    | snapshot =>
      have shown : (x.step .snapshot).sight = seen := by
        rw [sight, world_snapshot, path_step, ← sight, here]
      exact ih (honest.step .snapshot) shown ((baseline_snapshot honest).trans here) later
    | check callback => exact spares.1.elim

/-- A check finds nothing new if the one before it saw the same. -/
theorem rests_of_spares (honest : x.Honest) (first last : Callback) {between : List PollEvent}
    (same : (x.step (.check first)).sight = x.sight)
    (spares : ∀ e ∈ between, e.Spares x.watcher.path x.sight) :
    ((x.step (.check first)).run between).Rests last := by
  rw [← path_step x (.check first)] at spares
  obtain ⟨here, known⟩ :=
    seen_of_spares (honest.step (.check first)) same (baseline_check honest first) spares
  refine rests_of_not_later last ?_
  rw [here, known]
  exact not_later_self x.sight

/-- For every run of a watcher, with any changes of files, snapshots and callbacks: checks are
answered if a file can have the path; answers and calls are those of a run in which no callback
fails; a missing file is not called for; one that no look has seen since a check saw it missing is
called for, once; and of two checks between which nothing happens to the file the second does not
call. -/
theorem polls_follow_the_file (path : Path) (w : World) :
    let x := start path w
    (path.hasNul = false →
      ∀ events, ∀ answer ∈ x.answers events, ∃ changed, answer = .ok changed) ∧
    (∀ events, x.answers (events.map .calm) = x.answers events ∧
      (x.run (events.map .calm)).calls = (x.run events).calls) ∧
    (∀ events callback, (x.run events).sight = none → (x.run events).Rests callback) ∧
    (∀ before first between last, (x.run before).sight = none →
      let checked := (x.run before).step (.check first)
      (∀ seen ∈ checked.sights between, seen = none) → (checked.run between).sight ≠ none →
        (checked.run between).Calls last) ∧
    ∀ before first between last,
      let checked := (x.run before).step (.check first)
      checked.sight = (x.run before).sight →
        (∀ e ∈ between, e.Spares path (x.run before).sight) →
          (checked.run between).Rests last := by
  intro x
  have honest (events : List PollEvent) : (x.run events).Honest := (honest_start path w).run events
  have alike : Alike x x := ⟨rfl, rfl, rfl⟩
  refine ⟨answered (x := x), fun events => ⟨alike.answers events, (alike.run events).calls⟩,
    ?_, ?_, ?_⟩
  · intro events callback missing
    refine rests_of_not_later callback ?_
    rw [missing]
    exact not_later_none _
  · intro before first between last missing checked unseen back
    exact calls_of_return (honest before) missing first last unseen back
  · intro before first between last checked same spares
    have watched : (x.run before).watcher.path = path := path_run x before
    rw [← watched] at spares
    exact rests_of_spares (honest before) first last same spares

/-- A directory without the document. -/
def vacant : FileTree := { nodes := [], working := [], bundled := ["theme"], clock := 0 }

/-- A callback that fails. -/
def failing : Callback := fun w => ⟨w, .error (.file ⟨.missing, Settings.nearby.tokens⟩), []⟩

/-- A document that is removed and restored with an older time is called for again, although the
callback failed at first. -/
theorem polls_follow_the_file_restored :
    let x := start Settings.nearby.tokens ⟨savedAt 2000, [], .empty⟩
    let missed := x.run [.check failing, .files vacant]
    let back := (missed.step (.check failing)).run [.files (savedAt 1000)]
    Settings.nearby.tokens.hasNul = false ∧ missed.sight = none ∧
      (∀ seen ∈ (missed.step (.check failing)).sights [.files (savedAt 1000)], seen = none) ∧
      back.sight ≠ none ∧ back.Calls failing ∧
      ((missed.step (.check failing)).run []).Rests failing := by
  intro x missed back
  have missing : missed.sight = none := by decide +kernel
  have unseen : ∀ seen ∈ (missed.step (.check failing)).sights [.files (savedAt 1000)],
      seen = none := by decide +kernel
  have there : back.sight ≠ none := by decide +kernel
  have same : (missed.step (.check failing)).sight = missed.sight := by decide +kernel
  obtain ⟨-, -, -, returns, rests⟩ :=
    polls_follow_the_file Settings.nearby.tokens ⟨savedAt 2000, [], .empty⟩
  have called := returns [.check failing, .files vacant] failing [.files (savedAt 1000)] failing
    missing unseen there
  have still := rests [.check failing, .files vacant] failing [] failing same (by simp)
  exact ⟨rfl, missing, unseen, there, called, still⟩

/-- A file that has come back is not called for by the first check that sees it if a snapshot saw it
before, and a path with NUL in it is refused. -/
theorem snapshot_takes_in_return :
    let x := start Settings.nearby.tokens ⟨vacant, [], .empty⟩
    let checked := x.step (.check failing)
    let back := checked.run [.files (savedAt 1000), .snapshot]
    x.sight = none ∧ back.sight = some 1000 ∧ (back.check failing).2 = .ok false ∧
      back.calls = [] ∧
      ((start ⟨.working, ["tokens\x00json"]⟩ ⟨vacant, [], .empty⟩).check failing).2 =
        .error (.file ⟨.nul, ⟨.working, ["tokens\x00json"]⟩⟩) := by
  decide +kernel

end Polling

end DesignTokens
