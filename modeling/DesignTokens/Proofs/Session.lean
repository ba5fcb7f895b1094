import DesignTokens.Access
import DesignTokens.Build
import Mathlib.Data.List.Nodup

/-!
# Sessions

A session is any sequence of operations on the stores, with any changes of the files and of the
environment in between. What a caller of builds and read access does is such a sequence, in which
only some operations can change what a given store keeps.
-/

namespace DesignTokens

/-- One operation of a session. -/
inductive Op
  | files (t : FileTree)
  | environment (env : Environment)
  | share (path : Path)
  | add (path : Path)
  | load (h : Handle)
  | get (h : Handle)
  | reload (h : Handle)
  | invalidate (h : Handle)
  | clear

namespace Op

def run : Op → World → World
  | files t, w => { w with files := t }
  | environment env, w => { w with environment := env }
  | share path, w => (w.share path).world
  | add path, w => { w with shelf := (w.shelf.add path).1 }
  | load h, w => (w.access h Store.load).world
  | get h, w => (w.access h Store.get).world
  | reload h, w => (w.access h Store.reload).world
  | invalidate h, w => { w with shelf := w.shelf.setStore h (w.shelf.store h).invalidate }
  | clear, w => { w with shelf := w.shelf.clear }

end Op

theorem Outcome.andThen_ok {α β : Type} {o : Outcome α} {f : World → α → Outcome β} {b : β}
    (ok : (o.andThen f).result = .ok b) :
    ∃ a, o.result = .ok a ∧ (f o.world a).result = .ok b ∧
      (o.andThen f).world = (f o.world a).world := by
  rw [Outcome.andThen] at ok ⊢
  cases ho : o.result with
  | error p =>
    rw [ho] at ok
    cases ok
  | ok a =>
    rw [ho] at ok
    exact ⟨a, rfl, ok, rfl⟩

/-- A document and an output directory in the working directory. -/
def Settings.nearby : Settings :=
  ⟨⟨.working, ["tokens.json"]⟩, ⟨.working, ["out"]⟩, Settings.defaultInterval⟩

namespace World

def run (ops : List Op) (w : World) : World := ops.foldl (fun w op => op.run w) w

/-- A session of operations of a certain kind leads from one world to the other. -/
def Leads (kind : Op → Prop) (w w' : World) : Prop :=
  ∃ ops, (∀ op ∈ ops, kind op) ∧ w' = w.run ops

/-- The worlds that sessions lead to from an empty shelf. -/
def Reached (w : World) : Prop :=
  ∃ files env, Leads (fun _ => True) ⟨files, env, Shelf.empty⟩ w

variable {kind : Op → Prop}

theorem Leads.refl (w : World) : Leads kind w w := ⟨[], fun _ h => absurd h List.not_mem_nil, rfl⟩

theorem Leads.trans {w w' w'' : World} (first : Leads kind w w') (second : Leads kind w' w'') :
    Leads kind w w'' := by
  obtain ⟨ops, each, rfl⟩ := first
  obtain ⟨more, each', rfl⟩ := second
  refine ⟨ops ++ more, fun op hop => ?_, ?_⟩
  · exact (List.mem_append.mp hop).elim (each op) (each' op)
  · rw [run, run, run, List.foldl_append]

theorem leads_run {op : Op} (w : World) (h : kind op) : Leads kind w (op.run w) :=
  ⟨[op], fun _ hop => List.mem_singleton.mp hop ▸ h, rfl⟩

/-- What each operation preserves holds wherever a session leads. -/
theorem Leads.preserves {P : World → Prop} {w w' : World} (leads : Leads kind w w')
    (step : ∀ op w, kind op → P w → P (op.run w)) (start : P w) : P w' := by
  obtain ⟨ops, each, rfl⟩ := leads
  induction ops generalizing w with
  | nil => exact start
  | cons op rest ih =>
    exact ih (step op w (each op List.mem_cons_self) start)
      fun op' h => each op' (List.mem_cons_of_mem _ h)

theorem leads_andThen {α β : Type} {w : World} {o : Outcome α} {f : World → α → Outcome β}
    (first : Leads kind w o.world)
    (next : ∀ a, o.result = .ok a → Leads kind o.world (f o.world a).world) :
    Leads kind w (o.andThen f).world := by
  rw [Outcome.andThen]
  cases ho : o.result with
  | error p => exact first
  | ok a => exact first.trans (next a ho)

/-- Reading the document of a store is looking into it, after sharing it if none is given. -/
theorem leads_tokens (share : ∀ path, kind (.share path)) (get : ∀ h, kind (.get h)) (w : World)
    (store : Option Handle) : Leads kind w (w.tokens store).world := by
  cases store with
  | some h => exact leads_run w (get h)
  | none =>
    have first : Leads kind w w.defaultStore.world := by
      rw [defaultStore]
      cases w.settings Settings.nothing with
      | error p => exact Leads.refl w
      | ok s => exact leads_run w (share s.tokens)
    exact leads_andThen first fun h _ => leads_run _ (get h)

/-- A build reloads its store and changes files. -/
theorem leads_buildFrom {h : Handle} (reload : kind (.reload h)) (files : ∀ t, kind (.files t))
    (w : World) (output : Path) : Leads kind w (w.buildFrom h output).world := by
  have read : Leads kind w (w.access h Store.reload).world := leads_run w reload
  exact leads_andThen read fun doc _ => leads_run _ (files _)

/-- The store that a build reloads is the one it is given or else the shared one. -/
theorem leads_build {w : World} {s : Settings} {store : Option Handle}
    (share : kind (.share s.tokens)) (files : ∀ t, kind (.files t))
    (reload : ∀ h, store = some h ∨ (w.share s.tokens).result = .ok h → kind (.reload h)) :
    Leads kind w (w.build s store).world := by
  cases store with
  | some h => exact leads_buildFrom (reload h (Or.inl rfl)) files w s.output
  | none =>
    have first : Leads kind w (w.share s.tokens).world := leads_run w share
    refine leads_andThen first fun h hh => ?_
    exact leads_buildFrom (reload h (Or.inr hh)) files _ s.output

end World

namespace Shelf

/-- Sharing finds the store of a place, or puts a new one there. -/
theorem share_cases (shelf : Shelf) (files : FileTree) (path : Path) :
    (∃ h, shelf.shared.lookup (files.resolve path) = some h ∧ shelf.share files path = (shelf, h)) ∨
    (shelf.shared.lookup (files.resolve path) = none ∧
      shelf.share files path = (⟨shelf.stores ++ [.ofPath path],
        (files.resolve path, shelf.stores.length) :: shelf.shared⟩, shelf.stores.length)) := by
  cases hl : shelf.shared.lookup (files.resolve path) with
  | some h => exact Or.inl ⟨h, rfl, by simp only [share, hl]⟩
  | none => exact Or.inr ⟨rfl, by simp only [share, hl]; rfl⟩

/-- Who has shared the store of a file finds it again. -/
theorem lookup_share (shelf : Shelf) (files : FileTree) (path : Path) :
    (shelf.share files path).1.shared.lookup (files.resolve path) =
      some (shelf.share files path).2 := by
  rcases shelf.share_cases files path with ⟨h, found, hs⟩ | ⟨-, hs⟩
  · rw [hs, found]
  · rw [hs, List.lookup_cons_self]

theorem share_of_lookup {shelf : Shelf} {files : FileTree} {path : Path} {h : Handle}
    (found : shelf.shared.lookup (files.resolve path) = some h) :
    shelf.share files path = (shelf, h) := by
  simp only [share, found]

theorem store_setStore (shelf : Shelf) {h h' : Handle} (s : Store)
    (held : h < shelf.stores.length) :
    (shelf.setStore h' s).store h = if h' = h then s else shelf.store h := by
  rw [store, store, setStore, List.getD_eq_getElem?_getD, List.getD_eq_getElem?_getD,
    List.getElem?_set]
  by_cases hh : h' = h
  · rw [if_pos hh, if_pos hh, if_pos (hh ▸ held)]
    rfl
  · rw [if_neg hh, if_neg hh]

theorem path_setStore (shelf : Shelf) (h : Handle) {s : Store}
    (same : s.path = (shelf.store h).path) :
    ((shelf.setStore h s).store h).path = (shelf.store h).path := by
  by_cases held : h < shelf.stores.length
  · rw [store_setStore shelf s held, if_pos rfl, same]
  · rw [setStore, List.set_eq_of_length_le (Nat.le_of_not_lt held)]

theorem store_append {stores : List Store} {shared : List (Place × Handle)} {h : Handle}
    (held : h < stores.length) (more : List Store) (shared' : List (Place × Handle)) :
    (Shelf.mk (stores ++ more) shared').store h = (Shelf.mk stores shared).store h := by
  rw [store, store, List.getD_eq_getElem?_getD, List.getD_eq_getElem?_getD,
    List.getElem?_append_left held]

/-- Every store that is shared is on the shelf, and no two places share one. -/
structure Valid (shelf : Shelf) : Prop where
  held : ∀ e ∈ shelf.shared, e.2 < shelf.stores.length
  distinct : (shelf.shared.map Prod.snd).Nodup

theorem valid_of_nil {shelf : Shelf} (none : shelf.shared = []) : shelf.Valid := by
  constructor <;> simp [none]

theorem Valid.setStore {shelf : Shelf} (valid : shelf.Valid) (h : Handle) (s : Store) :
    (shelf.setStore h s).Valid := by
  refine ⟨fun e he => ?_, valid.distinct⟩
  rw [Shelf.setStore, List.length_set]
  exact valid.held e he

theorem Valid.add {shelf : Shelf} (valid : shelf.Valid) (path : Path) :
    (shelf.add path).1.Valid := by
  refine ⟨fun e he => ?_, valid.distinct⟩
  rw [Shelf.add, List.length_append]
  exact Nat.lt_add_right _ (valid.held e he)

theorem Valid.share {shelf : Shelf} (valid : shelf.Valid) (files : FileTree) (path : Path) :
    (shelf.share files path).1.Valid := by
  rcases shelf.share_cases files path with ⟨h, -, hs⟩ | ⟨-, hs⟩
  · rw [hs]
    exact valid
  · rw [hs]
    refine ⟨fun e he => ?_, ?_⟩
    · rcases List.mem_cons.mp he with rfl | he
      · simp
      · exact (valid.add path).held e he
    · have fresh : shelf.stores.length ∉ shelf.shared.map Prod.snd := by
        intro h
        obtain ⟨e, he, hlen⟩ := List.mem_map.mp h
        exact Nat.ne_of_lt (valid.held e he) hlen
      exact List.nodup_cons.mpr ⟨fresh, valid.distinct⟩

theorem mem_of_lookup {shelf : Shelf} {place : Place} {h : Handle}
    (found : shelf.shared.lookup place = some h) : (place, h) ∈ shelf.shared := by
  obtain ⟨before, after, he, -⟩ := List.lookup_eq_some_iff.mp found
  exact he ▸ List.mem_append_right before List.mem_cons_self

theorem Valid.lt_of_lookup {shelf : Shelf} (valid : shelf.Valid) {place : Place} {h : Handle}
    (found : shelf.shared.lookup place = some h) : h < shelf.stores.length :=
  valid.held (place, h) (mem_of_lookup found)

end Shelf

theorem World.shelf_share (w : World) (path : Path) :
    (w.share path).world = w ∨
      (w.share path).world = { w with shelf := (w.shelf.share w.files path).1 } := by
  rw [World.share]
  split
  · exact Or.inl rfl
  · exact Or.inr rfl

theorem Op.valid_run (op : Op) (w : World) (valid : w.shelf.Valid) : (op.run w).shelf.Valid := by
  cases op with
  | files t => exact valid
  | environment env => exact valid
  | share path =>
    rcases w.shelf_share path with hw | hw
    · rw [Op.run, hw]
      exact valid
    · rw [Op.run, hw]
      exact valid.share w.files path
  | add path => exact valid.add path
  | load h | get h | reload h | invalidate h => exact valid.setStore h _
  | clear => exact Shelf.valid_of_nil rfl

theorem World.Reached.valid {w : World} (reached : w.Reached) : w.shelf.Valid := by
  obtain ⟨files, env, leads⟩ := reached
  exact leads.preserves (fun op w _ => op.valid_run w) (Shelf.valid_of_nil rfl)

end DesignTokens
