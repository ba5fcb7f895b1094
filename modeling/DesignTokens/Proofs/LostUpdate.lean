import DesignTokens.Proofs.DocumentApart
import DesignTokens.Proofs.SharedStores

/-!
# No update is lost in watch mode

Saves get later and later times, so a baseline that is the time of the file is the baseline of what
the file holds now. It was taken before the latest build read the file, and whatever was saved since
then would have another time.
-/

namespace DesignTokens

namespace Watcher

variable {w : Watcher} {t : FileTree}

theorem snapshot_of_view {n : Node} (view : t.view w.path = some n) :
    w.snapshot t = .ok ⟨w.path, some n.modified⟩ := by
  rw [snapshot, FileTree.hasNul_of_view view, FileTree.modified?_eq, view]
  rfl

theorem snapshot_ok {next : Watcher} (taken : w.snapshot t = .ok next) :
    next = ⟨w.path, (t.view w.path).map Node.modified⟩ := by
  rw [snapshot] at taken
  split at taken
  · cases taken
  · rw [← FileTree.modified?_eq]
    exact (Except.ok.inj taken).symm

theorem poll_ok {next : Watcher} {changed : Bool} (asked : w.poll t = .ok (next, changed)) :
    w.snapshot t = .ok next ∧ changed = w.changed t := by
  rw [poll] at asked
  cases hs : w.snapshot t with
  | error p =>
    rw [hs] at asked
    cases asked
  | ok next' =>
    rw [hs] at asked
    have pair := Prod.mk.inj (Except.ok.inj asked)
    exact ⟨congrArg Except.ok pair.1, pair.2.symm⟩

theorem changed_iff (w : Watcher) (t : FileTree) :
    w.changed t = true ↔
      ∃ n, t.view w.path = some n ∧ ∀ b, w.baseline = some b → b < n.modified := by
  rw [changed, FileTree.modified?_eq]
  cases t.view w.path with
  | none => simp
  | some n => cases w.baseline <;> simp

/-- A poll finds a file changed that is later than the baseline. -/
theorem poll_of_later {n : Node} (view : t.view w.path = some n)
    (later : ∀ b, w.baseline = some b → b < n.modified) :
    w.poll t = .ok (⟨w.path, some n.modified⟩, true) := by
  have changed := (w.changed_iff t).mpr ⟨n, view, later⟩
  rw [poll, snapshot_of_view view, changed]
  rfl

end Watcher

/-- Whether a rebuild is due: the file is there with another time than the baseline. -/
def Watcher.due (w : Watcher) (view : Option Node) : Nat :=
  match view with
  | none => 0
  | some n => if w.baseline = some n.modified then 0 else 1

/-- What holds of a watcher in a state, if the latest build has read the document after the baseline
was taken, and if a number of rebuilds is sure to come. -/
structure Holds (s : Settings) (h : Handle) (x : WatchState) (w : Watcher) (read : Bool)
    (coming : Nat) : Prop where
  path : w.path = s.tokens
  past : ∀ b, w.baseline = some b → b ≤ x.latest
  order : ∀ b n, w.baseline = some b → x.world.files.view s.tokens = some n → b ≤ n.modified
  current : read = true → x.world.opens h = s.tokens → ∀ octets time,
    x.world.files.view s.tokens = some (.file octets time) → w.baseline = some time →
      x.taken = some ((parseDocument s.tokens octets).mapError .load)
  count : x.rebuilds + coming + w.due (x.world.files.view s.tokens) ≤ x.saves

/-- The first build is over and no build is running. -/
def Phase.Quiet : Phase → Prop
  | .idle => True
  | .polled _ _ => True
  | _ => False

/-- What holds of the watchers of a state, according to where the watch is. -/
def WatchState.Kept (s : Settings) (h : Handle) (x : WatchState) : Prop :=
  match x.phase with
  | .fresh => x.rebuilds = 0
  | .building _ part => Holds s h x x.watcher part.hasRead 0
  | .idle => Holds s h x x.watcher true 0
  | .polled next changed =>
    Holds s h x x.watcher true 0 ∧ Holds s h x next (!changed) (if changed then 1 else 0)
  | .ended => x.rebuilds ≤ x.saves

/-- The invariant of a watch. -/
structure WatchInv (s : Settings) (h : Handle) (x : WatchState) : Prop where
  past : ∀ n, x.world.files.view s.tokens = some n → n.modified ≤ x.latest
  kept : x.Kept s h

section Steps

variable {s : Settings} {h : Handle} {x : WatchState} {w : Watcher} {read : Bool} {coming : Nat}

/-- What holds of a watcher depends on the world only through the document and the path that the
store opens. -/
theorem Holds.of_view (holds : Holds s h x w read coming) {y : WatchState}
    (view : y.world.files.view s.tokens = x.world.files.view s.tokens)
    (opens : y.world.opens h = x.world.opens h) (latest : y.latest = x.latest)
    (taken : y.taken = x.taken) (saves : y.saves = x.saves) (rebuilds : y.rebuilds = x.rebuilds) :
    Holds s h y w read coming := by
  obtain ⟨path, past, order, current, count⟩ := holds
  rw [← view] at order current count
  rw [← latest] at past
  rw [← taken, ← opens] at current
  rw [← saves, ← rebuilds] at count
  exact ⟨path, past, order, current, count⟩

theorem Watcher.due_le_one (w : Watcher) (view : Option Node) : w.due view ≤ 1 := by
  cases view with
  | none => exact Nat.zero_le 1
  | some n =>
    simp only [due]
    split <;> omega

theorem Watcher.due_self (path : Path) (view : Option Node) :
    (Watcher.mk path (view.map Node.modified)).due view = 0 := by
  cases view with
  | none => rfl
  | some n => exact if_pos rfl

theorem Holds.save (holds : Holds s h x w read coming) {files : FileTree} {octets : List UInt8}
    {time : Time} (later : x.latest < time)
    (stored : files.view s.tokens = some (.file octets time)) :
    Holds s h { x with
      world := { x.world with files := files }, latest := time, saves := x.saves + 1 } w read
      coming := by
  refine ⟨holds.path, fun b hb => ?_, fun b n hb hn => ?_, fun _ _ octets' time' hv hb => ?_, ?_⟩
  · exact Int.le_of_lt (Int.lt_of_le_of_lt (holds.past b hb) later)
  · have hn' := Option.some.inj (stored.symm.trans hn)
    rw [← hn']
    exact Int.le_of_lt (Int.lt_of_le_of_lt (holds.past b hb) later)
  · -- A baseline from before the save cannot be its time.
    have hv' := Option.some.inj (stored.symm.trans hv)
    injection hv' with _ htime
    have hle := holds.past time' hb
    rw [← htime] at hle
    exact absurd later (Int.not_lt.mpr hle)
  · have count := holds.count
    have hdue := w.due_le_one (files.view s.tokens)
    dsimp only
    omega

theorem Holds.delete (holds : Holds s h x w read coming) {files : FileTree}
    (gone : files.view s.tokens = none) :
    Holds s h { x with world := { x.world with files := files } } w read coming := by
  refine ⟨holds.path, holds.past, fun b n hb hn => ?_, fun _ _ octets time hv => ?_, ?_⟩
  · cases gone.symm.trans hn
  · cases gone.symm.trans hv
  · have count := holds.count
    dsimp only
    rw [gone]
    simp only [Watcher.due]
    omega

/-- A watcher that has just looked at the file knows its time. -/
theorem holds_of_look (past : ∀ n, x.world.files.view s.tokens = some n → n.modified ≤ x.latest)
    (current : read = true → x.world.opens h = s.tokens → ∀ octets time,
      x.world.files.view s.tokens = some (.file octets time) →
        x.taken = some ((parseDocument s.tokens octets).mapError .load)) (count : x.rebuilds + coming ≤ x.saves) :
    Holds s h x ⟨s.tokens, (x.world.files.view s.tokens).map Node.modified⟩ read coming := by
  refine ⟨rfl, fun b hb => ?_, fun b n hb hn => ?_, fun hr hp octets time hv _ => ?_, ?_⟩
  · obtain ⟨n, hn, rfl⟩ := Option.map_eq_some_iff.mp hb
    exact past n hn
  · rw [hn] at hb
    exact Int.le_of_eq (Option.some.inj hb).symm
  · exact current hr hp octets time hv
  · rw [Watcher.due_self]
    exact count

/-- A poll finds the next baseline, and with it either a rebuild that is due or nothing new. -/
theorem Holds.poll (holds : Holds s h x w true 0) {next : Watcher} {changed : Bool}
    (past : ∀ n, x.world.files.view s.tokens = some n → n.modified ≤ x.latest)
    (asked : w.poll x.world.files = .ok (next, changed)) :
    Holds s h x next (!changed) (if changed then 1 else 0) := by
  obtain ⟨taken, hc⟩ := Watcher.poll_ok asked
  have hnext := Watcher.snapshot_ok taken
  rw [holds.path] at hnext
  rw [hnext]
  have found := w.changed_iff x.world.files
  rw [← hc, holds.path] at found
  cases changed with
  | false =>
    refine holds_of_look past (fun _ opens octets time hv => ?_) ?_
    · -- The file is not later than the baseline, so the baseline is its time.
      have known : w.baseline = some time := by
        by_contra hne
        have later : ∀ b, w.baseline = some b → b < time := fun b hb =>
          Int.lt_iff_le_and_ne.mpr ⟨holds.order b _ hb hv, fun heq => hne (heq ▸ hb)⟩
        cases found.mpr ⟨_, hv, later⟩
      exact holds.current rfl opens octets time hv known
    · have count := holds.count
      simp only [Bool.false_eq_true, if_false]
      omega
  | true =>
    refine holds_of_look past (fun hr => by cases hr) ?_
    obtain ⟨n, hn, later⟩ := found.mp rfl
    have due : w.due (x.world.files.view s.tokens) = 1 := by
      rw [hn]
      refine if_neg fun hb => ?_
      exact absurd (later _ hb) (Int.lt_irrefl _)
    have count := holds.count
    rw [due] at count
    simp only [if_true]
    omega

/-- What a build has just taken for the document is what the file holds, if its store opens it. -/
theorem Holds.of_read (holds : Holds s h x w read coming) {y : WatchState}
    (view : y.world.files.view s.tokens = x.world.files.view s.tokens)
    (opens : y.world.opens h = x.world.opens h) (latest : y.latest = x.latest)
    (saves : y.saves = x.saves) (rebuilds : y.rebuilds = x.rebuilds)
    (taken : y.taken = some (x.world.access h Store.reload).result) :
    Holds s h y w true coming := by
  obtain ⟨path, past, order, -, count⟩ := holds
  rw [← view] at order count
  rw [← latest] at past
  rw [← saves, ← rebuilds] at count
  refine ⟨path, past, order, fun _ same octets time hv _ => ?_, count⟩
  rw [opens] at same
  have read : x.world.files.read (x.world.opens h) = .ok octets := by
    rw [same, FileTree.read_of_view (view ▸ hv)]
  rw [taken, taken_of_read read, same]

/-- A change that preserves what holds of each watcher preserves what is kept of them all. -/
theorem Kept.of_holds {y : WatchState} (kept : x.Kept s h) (phase : y.phase = x.phase)
    (watcher : y.watcher = x.watcher) (rebuilds : y.rebuilds = x.rebuilds)
    (saves : x.saves ≤ y.saves)
    (holds : ∀ {w read coming}, Holds s h x w read coming → Holds s h y w read coming) :
    y.Kept s h := by
  rw [WatchState.Kept] at kept ⊢
  rw [phase, watcher, rebuilds]
  cases hp : x.phase with
  | fresh =>
    rw [hp] at kept
    exact kept
  | building first part =>
    rw [hp] at kept
    exact holds kept
  | idle =>
    rw [hp] at kept
    exact holds kept
  | polled next changed =>
    rw [hp] at kept
    exact ⟨holds kept.1, holds kept.2⟩
  | ended =>
    rw [hp] at kept
    exact Nat.le_trans kept saves

theorem step_inv {y : WatchState} (inv : WatchInv s h x) (step : WatchStep s h x y) :
    WatchInv s h y := by
  have kept := inv.kept
  rw [WatchState.Kept] at kept
  cases step with
  | snapshot here taken =>
    rw [here] at kept
    have look : Holds s h x ⟨s.tokens, (x.world.files.view s.tokens).map Node.modified⟩ false 0 :=
      holds_of_look inv.past (fun hr => by cases hr) (by rw [kept]; exact Nat.zero_le _)
    rw [Watcher.snapshot_ok taken]
    exact ⟨inv.past, look.of_view rfl rfl rfl rfl rfl rfl⟩
  | refuse here refused =>
    rw [here] at kept
    exact ⟨inv.past, kept ▸ Nat.zero_le _⟩
  | read here =>
    rw [here] at kept
    refine ⟨inv.past, ?_⟩
    rw [WatchState.Kept]
    dsimp only
    rw [Part.hasRead_afterReading]
    exact Holds.of_read kept rfl (opens_reload _ _) rfl rfl rfl rfl
  | work here later spared =>
    rw [here] at kept
    dsimp only at kept
    rw [Part.hasRead_of_ne later] at kept
    refine ⟨fun n hn => inv.past n (spared ▸ hn), ?_⟩
    rw [WatchState.Kept]
    dsimp only
    rw [Part.hasRead_advance]
    exact kept.of_view spared (opens_advance _ _ _ _) rfl rfl rfl rfl
  | returns here answered =>
    rw [here] at kept
    exact ⟨inv.past, Holds.of_view kept rfl rfl rfl rfl rfl rfl⟩
  | @raises first result here =>
    rw [here] at kept
    refine ⟨inv.past, ?_⟩
    cases first with
    | false => exact Holds.of_view kept rfl rfl rfl rfl rfl rfl
    | true =>
      have count := kept.count
      have bound : x.rebuilds ≤ x.saves := by omega
      exact bound
  | poll here asked =>
    rw [here] at kept
    have next := Holds.poll kept inv.past asked
    exact ⟨inv.past, Holds.of_view kept rfl rfl rfl rfl rfl rfl,
      next.of_view rfl rfl rfl rfl rfl rfl⟩
  | settle here =>
    rw [here] at kept
    exact ⟨inv.past, Holds.of_view kept.2 rfl rfl rfl rfl rfl rfl⟩
  | rebuild here =>
    rw [here] at kept
    obtain ⟨path, past, order, current, count⟩ := kept.2
    exact ⟨inv.past, path, past, order, current, count⟩
  | save later stored =>
    refine ⟨fun n hn => ?_, ?_⟩
    · rw [← Option.some.inj (stored.symm.trans hn)]
      exact Int.le_refl _
    · exact Kept.of_holds inv.kept rfl rfl rfl (Nat.le_succ _)
        fun holds => holds.save later stored
  | delete gone =>
    refine ⟨fun n hn => ?_, ?_⟩
    · cases gone.symm.trans hn
    · exact Kept.of_holds inv.kept rfl rfl rfl (Nat.le_refl _) fun holds => holds.delete gone
  | aside same opens =>
    refine ⟨fun n hn => inv.past n (same ▸ hn), ?_⟩
    exact Kept.of_holds inv.kept rfl rfl rfl (Nat.le_refl _)
      fun holds => holds.of_view same opens rfl rfl rfl rfl

theorem reached_inv (reached : WatchReached s h x) : WatchInv s h x := by
  induction reached with
  | start before => exact ⟨before, rfl⟩
  | step _ step ih => exact step_inv ih step

theorem WatchInv.rebuilds_le (inv : WatchInv s h x) : x.rebuilds ≤ x.saves := by
  have kept := inv.kept
  rw [WatchState.Kept] at kept
  cases hp : x.phase with
  | fresh =>
    rw [hp] at kept
    exact kept ▸ Nat.zero_le _
  | building first part =>
    rw [hp] at kept
    have count := kept.count
    omega
  | idle =>
    rw [hp] at kept
    have count := kept.count
    omega
  | polled next changed =>
    rw [hp] at kept
    have count := kept.1.count
    omega
  | ended =>
    rw [hp] at kept
    exact kept

theorem WatchInv.holds_of_quiet (inv : WatchInv s h x) (quiet : x.phase.Quiet) :
    Holds s h x x.watcher true 0 := by
  have kept := inv.kept
  rw [WatchState.Kept] at kept
  cases hp : x.phase with
  | idle =>
    rw [hp] at kept
    exact kept
  | polled next changed =>
    rw [hp] at kept
    exact kept.1
  | fresh | building _ _ | ended =>
    rw [hp] at quiet
    exact quiet.elim

/-- A poll of a file with another time than the baseline finds it changed. -/
theorem Holds.poll_of_ne (holds : Holds s h x w read coming) {n : Node}
    (view : x.world.files.view s.tokens = some n) (ne : w.baseline ≠ some n.modified) :
    w.poll x.world.files = .ok (⟨s.tokens, some n.modified⟩, true) := by
  have order : ∀ b, w.baseline = some b → b < n.modified := fun b hb =>
    Int.lt_iff_le_and_ne.mpr ⟨holds.order b n hb view, fun heq => ne (heq ▸ hb)⟩
  rw [← holds.path] at view ⊢
  exact Watcher.poll_of_later view order

/-- In every run of a watch, rebuilds are at most as many as saves. Whenever the first build is over
and none is running, and the document has the time of the baseline, the latest build took for its
document what the file holds now, if the store of the watch opens the path that is watched; and a poll
of a document with another time finds it changed, which is what a rebuild starts from. -/
theorem no_update_is_lost (reached : WatchReached s h x) :
    x.rebuilds ≤ x.saves ∧
      (x.phase.Quiet → ∀ octets time, x.world.files.view s.tokens = some (.file octets time) →
        (x.world.opens h = s.tokens → x.watcher.baseline = some time →
            x.taken = some ((parseDocument s.tokens octets).mapError .load)) ∧
          (x.watcher.baseline ≠ some time →
            x.watcher.poll x.world.files = .ok (⟨s.tokens, some time⟩, true))) := by
  have inv := reached_inv reached
  refine ⟨inv.rebuilds_le, fun quiet octets time view => ?_⟩
  have holds := inv.holds_of_quiet quiet
  exact ⟨fun opens known => holds.current rfl opens octets time view known, holds.poll_of_ne view⟩

end Steps

/-- Saves of a document, without and with a token outside of the groups. -/
def firstSave : Edit :=
  ⟨Settings.nearby.tokens, Text.Utf8.encode
    "\x7b\"colors\": \x7b\x7d, \"typography\": \x7b\"fontFamily\": \x7b\x7d\x7d\x7d".toList, 1000⟩

def secondSave : Edit :=
  ⟨Settings.nearby.tokens, Text.Utf8.encode
    "\x7b\"colors\": \x7b\x7d, \"typography\": \x7b\"fontFamily\": \x7b\x7d\x7d, \"a\": 1\x7d".toList, 2000⟩

def World.resave (w : World) : World := { w with files := secondSave.apply w.files }

/-- A world with a document for which no store has been asked yet. -/
def World.saved : World := ⟨firstSave.apply .bare, [], .empty⟩

theorem FileTree.apart_nearby (t : FileTree) :
    ¬ t.ArtifactPlace Settings.nearby.output (t.resolve Settings.nearby.tokens) := by
  rintro ⟨name, known, same⟩
  have lengths := congrArg List.length same
  rw [resolve_artifactPath (fileName_builtin name known)] at lengths
  simp [FileTree.resolve, Settings.nearby, FileTree.step, FileTree.anchorPlace] at lengths

/-- A watch starts its first build with the time of the document as its baseline. -/
theorem reached_looked {s : Settings} {h : Handle} {w : World} {n : Node}
    (document : w.files.view s.tokens = some n) :
    WatchReached s h
      ⟨w, ⟨s.tokens, some n.modified⟩, .building true .reading, n.modified, none, 0, 0⟩ := by
  have fresh : WatchReached s h ⟨w, .ofPath s.tokens, .fresh, n.modified, none, 0, 0⟩ :=
    .start fun n' hn' => Option.some.inj (document.symm.trans hn') ▸ Int.le_refl _
  exact fresh.step (.snapshot rfl (Watcher.snapshot_of_view (w := .ofPath s.tokens) document))

/-- A watch builds a document, and builds it again when it has been saved again. -/
theorem reached_resaved {w : World} {h : Handle} (standing : w.files.Standing)
    (document : w.files.view Settings.nearby.tokens = some (.file firstSave.octets 1000))
    (first : (w.build Settings.nearby (some h)).result.isOk = true)
    (second : ((w.build Settings.nearby (some h)).world.resave.build Settings.nearby
      (some h)).result.isOk = true) :
    ∃ x, WatchReached Settings.nearby h x ∧ x.phase.Quiet ∧ x.rebuilds = 1 ∧
      x.watcher.baseline = some 2000 ∧ x.world.opens h = w.opens h ∧
      x.world.files.view Settings.nearby.tokens = some (.file secondSave.octets 2000) := by
  have spares := World.buildSpares_of_apart h standing document (FileTree.apart_nearby _)
  have watching := reached_answered (reached_looked document) rfl spares (answered_of_isOk first)
  have kept := (view_of_spares spares).trans document
  have standing' := FileTree.lasting_standing.build standing Settings.nearby (some h)
  have opens := opens_build Settings.nearby h w
  generalize (w.build Settings.nearby (some h)).world = w' at *
  have stored : w'.resave.files.view Settings.nearby.tokens =
      some (.file secondSave.octets 2000) := view_edit_of_view (e := secondSave) kept
  have later : (1000 : Time) < 2000 := by decide
  have saved := watching.step (.save later stored)
  have asked := Watcher.poll_of_later (w := ⟨Settings.nearby.tokens, some 1000⟩) stored
    fun b hb => Option.some.inj hb ▸ later
  have building := (saved.step (.poll rfl asked)).step (.rebuild rfl)
  have spares' := World.buildSpares_of_apart h (standing_edit standing' secondSave) stored
    (FileTree.apart_nearby _)
  have rebuilt := reached_answered building rfl spares' (answered_of_isOk second)
  exact ⟨_, rebuilt, trivial, rfl, rfl, (opens_build _ h w'.resave).trans opens,
    (view_of_spares spares').trans stored⟩

/-- The document is watched with the store that is shared for it. After its first build it is saved
again, and a poll has it built once more: the second build has taken what was saved. -/
theorem no_update_is_lost_resaved :
    (World.saved.share Settings.nearby.tokens).result = .ok 0 ∧
      ∃ x, WatchReached Settings.nearby 0 x ∧ x.phase.Quiet ∧ x.rebuilds = 1 ∧
        x.rebuilds ≤ x.saves ∧
        x.taken =
          some ((parseDocument Settings.nearby.tokens secondSave.octets).mapError .load) ∧
        (parseDocument Settings.nearby.tokens secondSave.octets).isOk = true := by
  have standing : World.saved.files.Standing := standing_edit FileTree.standing_bare firstSave
  have document : World.saved.files.view Settings.nearby.tokens =
      some (.file firstSave.octets 1000) := view_edit rfl
  have asked : (World.saved.share Settings.nearby.tokens).result = .ok 0 := rfl
  obtain ⟨x, reached, quiet, rebuilds, known, opens, view⟩ :=
    reached_resaved (w := (World.saved.share Settings.nearby.tokens).world) (h := 0) standing
      document (by decide +kernel) (by decide +kernel)
  have same := opens.trans (opens_share asked rfl)
  have found := no_update_is_lost reached
  exact ⟨asked, x, reached, quiet, rebuilds, found.1, (found.2 quiet _ _ view).1 same known,
    by decide +kernel⟩

/-- A watch goes on after a first build to which its store refused the document. -/
theorem reached_refused {s : Settings} {h : Handle} {w : World} {n : Node} {p : Problem}
    (document : w.files.view s.tokens = some n)
    (refused : (w.access h Store.reload).result = .error p) (theme : p.isThemeError = true) :
    ∃ x, WatchReached s h x ∧ x.phase.Quiet ∧ x.world.files = w.files ∧
      x.watcher.baseline = some n.modified ∧ x.taken = some (.error p) := by
  have read := (reached_looked (h := h) document).step (.read rfl)
  dsimp only at read
  rw [refused] at read
  have answered := read.step (.returns rfl fun q failed => Except.error.inj failed ▸ theme)
  exact ⟨_, answered, trivial, rfl, rfl, rfl⟩

/-- The store of the document has been asked for through a directory that is missing. -/
def World.strayed : World := (World.saved.share (.through "missing")).world

/-- The store that is shared for the document opens the path that asked first. The first build of a
watch takes nothing then, although the document is there with the time of the baseline. -/
theorem stray_store_takes_nothing :
    (World.strayed.share Settings.nearby.tokens).result = .ok 0 ∧
      (parseDocument Settings.nearby.tokens firstSave.octets).isOk = true ∧
      ∃ x, WatchReached Settings.nearby 0 x ∧ x.phase.Quiet ∧
        x.world.files.view Settings.nearby.tokens = some (.file firstSave.octets 1000) ∧
        x.watcher.baseline = some 1000 ∧
        x.taken = some (.error (.load (.refused .absent (.through "missing")))) := by
  have document : (World.strayed.share Settings.nearby.tokens).world.files.view
      Settings.nearby.tokens = some (.file firstSave.octets 1000) := view_edit rfl
  obtain ⟨x, reached, quiet, files, known, taken⟩ :=
    reached_refused (s := Settings.nearby) (h := 0) document rfl rfl
  exact ⟨rfl, by decide +kernel, x, reached, quiet, files ▸ document, known, taken⟩

end DesignTokens
