import DesignTokens.Proofs.Loading
import DesignTokens.Proofs.ReadPath
import DesignTokens.Proofs.Stopping
import Mathlib.Data.List.Induction

/-!
# Which file a shared store reads

The shared store of a file is found under every path to the file, but it reads the path that asked
for it first. It stands in for a path just if that first path leads somewhere: a path through a
directory that is missing names the same file and leads nowhere.
-/

namespace DesignTokens

namespace FileTree

/-- What every tree of files keeps to: its root is a directory, what is anywhere is in a directory and
under a name that is not too long, and paths do not start at files. -/
structure Orderly (t : FileTree) : Prop where
  root : t.shape [] = some none
  held : ∀ place name, t.node? (place ++ [name]) ≠ none → t.shape place = some none
  short : ∀ place name, t.node? (place ++ [name]) ≠ none → name.utf8ByteSize ≤ maxName
  start : ∀ anchor octets, t.shape (t.anchorPlace anchor) ≠ some (some octets)

theorem node?_of_shape {t : FileTree} {place : Place} {found : Option (List UInt8)}
    (there : t.shape place = some found) : t.node? place ≠ none := by
  intro nothing
  rw [shape, nothing] at there
  cases there

namespace Orderly

variable {t : FileTree}

/-- The places above one where something is are directories. -/
theorem above (orderly : t.Orderly) {place : Place} {names : List String}
    (there : t.node? (place ++ names) ≠ none) (below : names ≠ []) :
    t.shape place = some none := by
  induction names using List.reverseRecOn with
  | nil => exact absurd rfl below
  | append_singleton names name ih =>
    rw [← List.append_assoc] at there
    have directory := orderly.held _ _ there
    by_cases none : names = []
    · rw [none, List.append_nil] at directory
      exact directory
    · exact ih (node?_of_shape directory) none

/-- The place above a directory is a directory. -/
theorem dropLast (orderly : t.Orderly) {place : Place} (there : t.shape place = some none) :
    t.shape place.dropLast = some none := by
  rcases List.eq_nil_or_concat place with rfl | ⟨above, name, rfl⟩
  · exact orderly.root
  · rw [List.concat_eq_append, List.dropLast_concat]
    rw [List.concat_eq_append] at there
    exact orderly.held above name (node?_of_shape there)

end Orderly

/-- What leads to a place and does not end there has passed directories only. -/
theorem walk_concat {t : FileTree} {place place' : Place} {names : List String} {name : String}
    (walked : t.walk place (names ++ [name]) = .ok place') :
    ∃ above, t.walk place names = .ok above ∧ t.shape above = some none ∧
      place' = step above name := by
  induction names generalizing place with
  | nil =>
    rw [List.nil_append, walk] at walked
    split at walked
    · rename_i time hn
      split at walked
      · cases walked
      · exact ⟨place, rfl, shape_of_directory hn, (Except.ok.inj walked).symm⟩
    · cases walked
    · cases walked
  | cons first rest ih =>
    rw [List.cons_append, walk] at walked
    rw [walk]
    split at walked
    · split at walked
      · cases walked
      · rename_i hs
        rw [if_neg hs]
        exact ih walked
    · cases walked
    · cases walked

/-- A path to a file ends in the name of the file. -/
theorem name_of_file {t : FileTree} (orderly : t.Orderly) {path : Path} {place : Place}
    {octets : List UInt8} (located : t.locate path = .ok place)
    (file : t.shape place = some (some octets)) : path.name = place.getLast?.getD "" := by
  have walked := walk_of_locate located
  rw [Path.name]
  rcases List.eq_nil_or_concat path.parts with none | ⟨above, name, parts⟩
  · rw [none] at walked
    rw [← Except.ok.inj walked] at file
    exact absurd file (orderly.start _ _)
  · rw [List.concat_eq_append] at parts
    rw [parts] at walked ⊢
    obtain ⟨holder, -, directory, rfl⟩ := walk_concat walked
    rw [step] at file ⊢
    by_cases up : name = ".."
    · rw [if_pos up, orderly.dropLast directory] at file
      cases file
    · rw [if_neg up]
      simp

theorem parseAs_of_name {path path' : Path} (name : path'.name = path.name) {cs : List Char}
    {v : Value} (parsed : parseAs path cs = .ok v) : parseAs path' cs = .ok v := by
  have same : path'.isYaml = path.isYaml := by
    rw [Path.isYaml, Path.isYaml, Path.suffix, Path.suffix, name]
  rw [parseAs] at parsed ⊢
  rw [same]
  by_cases yaml : path.isYaml
  · rw [if_pos yaml] at parsed ⊢
    cases found : Yaml.parse cs with
    | ok v' =>
      rw [found] at parsed
      exact congrArg _ (Except.ok.inj parsed)
    | error fault =>
      rw [found] at parsed
      cases fault <;> cases parsed
  · rw [if_neg yaml] at parsed ⊢
    cases found : Json.parse cs with
    | ok v' =>
      rw [found] at parsed
      exact congrArg _ (Except.ok.inj parsed)
    | error fault =>
      rw [found] at parsed
      cases fault <;> cases parsed

/-- Of a path only the name matters for what a document is read as. -/
theorem parseDocument_of_name {path path' : Path} (name : path'.name = path.name)
    {octets : List UInt8} {doc : Document} (parsed : parseDocument path octets = .ok doc) :
    parseDocument path' octets = .ok doc := by
  unfold parseDocument at parsed ⊢
  split at parsed
  · cases parsed
  · rename_i cs decoded
    split at parsed
    · cases parsed
    · rename_i entries found
      rw [parseAs_of_name name found]
      exact parsed
    · cases parsed

/-- Paths to one file give one document. -/
theorem load_of_same_file {t : FileTree} (orderly : t.Orderly) {path path' : Path} {place : Place}
    (located : t.locate path = .ok place) (located' : t.locate path' = .ok place) {doc : Document}
    (loads : t.load path = .ok doc) : t.load path' = .ok doc := by
  rw [load_eq_ok_iff] at loads ⊢
  obtain ⟨octets, read, parsed⟩ := loads
  obtain ⟨there, located'', file⟩ := (t.read_eq_ok_iff path octets).mp read
  obtain rfl : there = place := Except.ok.inj (located''.symm.trans located)
  have name : path'.name = path.name :=
    (name_of_file orderly located' file).trans (name_of_file orderly located file).symm
  exact ⟨octets, (t.read_eq_ok_iff path' octets).mpr ⟨there, located', file⟩,
    parseDocument_of_name name parsed⟩

/-- A path without double dots to a place where something is leads there. -/
theorem walk_plain {t : FileTree} (orderly : t.Orderly) {place : Place} {names : List String}
    (plain : ".." ∉ names) (there : t.node? (place ++ names) ≠ none) :
    t.walk place names = .ok (place ++ names) := by
  induction names generalizing place with
  | nil => rw [List.append_nil]; rfl
  | cons name rest ih =>
    obtain ⟨time, directory⟩ := directory_of_shape (orderly.above there (List.cons_ne_nil _ _))
    rw [List.append_cons] at there
    have here : t.node? (place ++ [name]) ≠ none := by
      by_cases none : rest = []
      · rw [none, List.append_nil] at there
        exact there
      · exact node?_of_shape (orderly.above there none)
    have further : step place name = place ++ [name] :=
      if_neg fun up : name = ".." => plain (up ▸ List.mem_cons_self)
    have short := orderly.short place name here
    rw [walk, directory]
    dsimp only
    rw [if_neg (Nat.not_lt.mpr short), further, List.append_cons place name rest]
    exact ih (fun h => plain (List.mem_cons_of_mem _ h)) there

theorem resolve_plain (t : FileTree) {path : Path} (plain : ".." ∉ path.parts) :
    t.resolve path = t.anchorPlace path.anchor ++ path.parts := by
  have each (place : Place) (names : List String) (plain : ".." ∉ names) :
      names.foldl step place = place ++ names := by
    induction names generalizing place with
    | nil => rw [List.append_nil]; rfl
    | cons name rest ih =>
      have further : step place name = place ++ [name] :=
        if_neg fun up : name = ".." => plain (up ▸ List.mem_cons_self)
      rw [List.foldl_cons, further, ih _ fun h => plain (List.mem_cons_of_mem _ h),
        ← List.append_cons]
  exact each _ _ plain

theorem locate_plain {t : FileTree} (orderly : t.Orderly) {path : Path}
    (named : path.hasNul = false) (short : path.text.utf8ByteSize ≤ maxPath)
    (plain : ".." ∉ path.parts) (there : t.node? (t.resolve path) ≠ none) :
    t.locate path = .ok (t.resolve path) := by
  rw [resolve_plain t plain] at there ⊢
  rw [locate, named, if_neg Bool.false_ne_true, if_neg (Nat.not_lt.mpr short)]
  exact walk_plain orderly plain there

/-- A document that loads is in a file. -/
theorem file_of_load {t : FileTree} {path : Path} {doc : Document}
    (loads : t.load path = .ok doc) : path.hasNul = false ∧ ∃ octets,
      t.locate path = .ok (t.resolve path) ∧ t.shape (t.resolve path) = some (some octets) := by
  obtain ⟨octets, read, -⟩ := (t.load_eq_ok_iff path doc).mp loads
  obtain ⟨place, located, file⟩ := (t.read_eq_ok_iff path octets).mp read
  obtain rfl := locate_ok located
  refine ⟨?_, octets, located, file⟩
  cases named : path.hasNul with
  | false => rfl
  | true =>
    rw [(t.locate_eq_nul_iff path).mpr named] at located
    cases located

/-- Another path to the place of a document loads it just if it leads anywhere. -/
theorem load_iff_leads {t : FileTree} (orderly : t.Orderly) {path other : Path} {doc : Document}
    (loads : t.load path = .ok doc) (place : t.resolve other = t.resolve path) :
    t.load other = .ok doc ↔ ∃ there, t.locate other = .ok there ∧ t.node? there ≠ none := by
  obtain ⟨-, octets, located, file⟩ := file_of_load loads
  constructor
  · intro loads'
    obtain ⟨-, octets', located', file'⟩ := file_of_load loads'
    exact ⟨_, located', node?_of_shape file'⟩
  · rintro ⟨there, located', -⟩
    obtain rfl := locate_ok located'
    rw [place] at located'
    exact load_of_same_file orderly located located' loads

end FileTree

/-- The operations that leave the starts of paths where they are. -/
def Op.Stays (t : FileTree) : Op → Prop
  | .files t' => FileTree.SameAnchors t t'
  | _ => True

/-- The path that asked first for the shared store of a place, after one more operation. -/
def Op.first (t : FileTree) (place : Place) (found : Option Path) : Op → Option Path
  | .share path => found.or (if t.resolved? path = some place then some path else none)
  | .clear => none
  | _ => found

/-- The path that asked first for the shared store of a place since the stores were dropped last. -/
def firstAsked (t : FileTree) (place : Place) (ops : List Op) : Option Path :=
  ops.foldl (Op.first t place) none

/-- The shared store of a place is there if a path has asked for it, and reads that path. -/
structure World.Recalls (w : World) (t : FileTree) (place : Place) (first : Option Path) :
    Prop where
  valid : w.shelf.Valid
  anchors : FileTree.SameAnchors t w.files
  path : (w.shelf.shared.lookup place).map (fun h => (w.shelf.store h).path) = first
  leads : ∀ q, first = some q → t.resolved? q = some place

theorem FileTree.SameAnchors.resolved? {t t' : FileTree} (anchors : FileTree.SameAnchors t t')
    (path : Path) : t'.resolved? path = t.resolved? path := by
  rw [FileTree.resolved?, FileTree.resolved?, anchors.resolve]

theorem FileTree.resolved?_of_named (t : FileTree) {path : Path} (named : path.hasNul = false) :
    t.resolved? path = some (t.resolve path) := by
  rw [resolved?, named, if_neg Bool.false_ne_true]

theorem Shelf.path_store_setStore (shelf : Shelf) {h h' : Handle} {s : Store}
    (held : h < shelf.stores.length) (same : s.path = (shelf.store h').path) :
    ((shelf.setStore h' s).store h).path = (shelf.store h).path := by
  rw [store_setStore shelf s held]
  by_cases hh : h' = h
  · rw [if_pos hh, same, hh]
  · rw [if_neg hh]

namespace World.Recalls

variable {w : World} {t : FileTree} {place : Place} {first : Option Path}

/-- Using a store changes no paths. -/
theorem setStore (recalls : w.Recalls t place first) {h : Handle} {s : Store}
    (same : s.path = (w.shelf.store h).path) :
    Recalls { w with shelf := w.shelf.setStore h s } t place first := by
  refine ⟨recalls.valid.setStore h s, recalls.anchors, ?_, recalls.leads⟩
  rw [← recalls.path]
  change (w.shelf.shared.lookup place).map _ = _
  cases found : w.shelf.shared.lookup place with
  | none => rfl
  | some h' =>
    exact congrArg some (w.shelf.path_store_setStore (recalls.valid.lt_of_lookup found) same)

theorem add (recalls : w.Recalls t place first) (path : Path) :
    Recalls { w with shelf := (w.shelf.add path).1 } t place first := by
  refine ⟨recalls.valid.add path, recalls.anchors, ?_, recalls.leads⟩
  rw [← recalls.path]
  change (w.shelf.shared.lookup place).map _ = _
  cases found : w.shelf.shared.lookup place with
  | none => rfl
  | some h =>
    exact congrArg (fun s => some s.path)
      (Shelf.store_append (recalls.valid.lt_of_lookup found) _ _)

/-- A path asks first if none has asked before it. -/
theorem share (recalls : w.Recalls t place first) (path : Path) :
    (w.share path).world.Recalls t place
      (first.or (if t.resolved? path = some place then some path else none)) := by
  have leads : ∀ q, first.or (if t.resolved? path = some place then some path else none) = some q →
      t.resolved? q = some place := by
    intro q hq
    rcases Option.or_eq_some_iff.mp hq with before | ⟨-, now⟩
    · exact recalls.leads q before
    · split at now
      · rename_i here
        rw [← Option.some.inj now, here]
      · cases now
  have valid := Op.valid_run (.share path) w recalls.valid
  rw [World.share]
  by_cases nul : path.hasNul
  · rw [if_pos nul]
    have nowhere : t.resolved? path = none := if_pos nul
    rw [nowhere, if_neg (by simp), Option.or_none]
    exact recalls
  · have named : path.hasNul = false := by simpa using nul
    rw [Op.run, World.share, if_neg nul] at valid
    rw [if_neg nul]
    refine ⟨valid, recalls.anchors, ?_, leads⟩
    have asked : (if t.resolved? path = some place then some path else none) =
        if w.files.resolve path = place then some path else none := by
      simp only [t.resolved?_of_named named, recalls.anchors.resolve, Option.some.injEq]
    rw [asked, ← recalls.path]
    dsimp only
    rcases w.shelf.share_cases w.files path with ⟨h, found, hs⟩ | ⟨unknown, hs⟩
    · rw [hs]
      by_cases here : w.files.resolve path = place
      · rw [← here, found]
        rfl
      · rw [if_neg here, Option.or_none]
    · rw [hs]
      by_cases here : w.files.resolve path = place
      · rw [← here, unknown, if_pos rfl, lookup_cons_ite, if_pos rfl]
        simp [Shelf.store, Store.ofPath]
      · have elsewhere : place ≠ w.files.resolve path := fun h => here h.symm
        rw [if_neg here, Option.or_none, lookup_cons_ite, if_neg elsewhere]
        cases found : w.shelf.shared.lookup place with
        | none => rfl
        | some h =>
          exact congrArg (fun s => some s.path)
            (Shelf.store_append (recalls.valid.lt_of_lookup found) _ _)

theorem step (recalls : w.Recalls t place first) {op : Op} (stays : op.Stays t) :
    (op.run w).Recalls t place (op.first t place first) := by
  cases op with
  | files t' => exact ⟨recalls.valid, stays, recalls.path, recalls.leads⟩
  | environment env => exact ⟨recalls.valid, recalls.anchors, recalls.path, recalls.leads⟩
  | share path => exact recalls.share path
  | add path => exact recalls.add path
  | load h => exact recalls.setStore (Use.path_reply (w.shelf.store h) w.files .load)
  | get h => exact recalls.setStore (Use.path_reply (w.shelf.store h) w.files .get)
  | reload h => exact recalls.setStore (Use.path_reply (w.shelf.store h) w.files .reload)
  | invalidate h => exact recalls.setStore rfl
  | clear => exact ⟨Shelf.valid_of_nil rfl, recalls.anchors, rfl, fun q hq => nomatch hq⟩

theorem run (recalls : w.Recalls t place first) {ops : List Op} (stay : ∀ op ∈ ops, op.Stays t) :
    (w.run ops).Recalls t place (ops.foldl (Op.first t place) first) := by
  induction ops generalizing w first with
  | nil => exact recalls
  | cons op ops ih =>
    exact ih (recalls.step (stay op List.mem_cons_self))
      fun op' hop => stay op' (List.mem_cons_of_mem _ hop)

end World.Recalls

/-- What reloading the shared store of a path gives. -/
def World.reloadShared (w : World) (path : Path) : Except Problem Document :=
  ((w.share path).andThen fun w h => w.access h Store.reload).result

/-- The shared store of a path reads the path that asked for it first. It gives the document of the
path just if that first path leads somewhere, as one without double dots does unless it is too long.
A build fails to load the document just if the shared store does. -/
structure World.StandsIn (w : World) (path first : Path) (doc : Document) : Prop where
  place : w.files.resolve first = w.files.resolve path
  reads : w.reloadShared path = (w.files.load first).mapError .load
  faithful : w.reloadShared path = .ok doc ↔ ∃ n, w.files.stat first = .ok n
  lost : (∀ n, w.files.stat first ≠ .ok n) → ∃ e, w.reloadShared path = .error (.load e) ∧
    (e = .refused .absent first ∨ e = .denied ⟨.nameTooLong, first⟩)
  plain : ".." ∉ first.parts → first.text.utf8ByteSize ≤ FileTree.maxPath →
    w.reloadShared path = .ok doc
  build : ∀ s e, s.tokens = path →
    ((w.build s none).result = .error (.load e) ↔ w.reloadShared path = .error (.load e))

theorem Outcome.andThen_eq_error_iff {α β : Type} (o : Outcome α) (f : World → α → Outcome β)
    (p : Problem) : (o.andThen f).result = .error p ↔
      o.result = .error p ∨ ∃ a, o.result = .ok a ∧ (f o.world a).result = .error p := by
  rw [andThen]
  cases o.result <;> simp

/-- Storing artifacts does not fail as loading a document does. -/
theorem World.produce_ne_load (w : World) (output : Path) (doc : Document) (e : LoadError) :
    (w.produce output doc).result ≠ .error (.load e) := by
  have result : (w.produce output doc).result =
      (writeArtifacts w.files (compile builtin doc) output).result := rfl
  rw [result, result_compile builtin_names_nodup fileName_builtin]
  split
  case isTrue => simp
  case isFalse => split <;> simp [Problem.ofFault]

theorem World.build_load_error_iff (w : World) (s : Settings) (e : LoadError) :
    (w.build s none).result = .error (.load e) ↔ w.reloadShared s.tokens = .error (.load e) := by
  have step (w' : World) (h : Handle) : (w'.buildFrom h s.output).result = .error (.load e) ↔
      (w'.access h Store.reload).result = .error (.load e) := by
    have result : (w'.buildFrom h s.output).result =
      ((w'.access h Store.reload).andThen fun w doc => w.produce s.output doc).result := rfl
    rw [result, Outcome.andThen_eq_error_iff]
    exact or_iff_left fun ⟨doc, _, failed⟩ => produce_ne_load _ s.output doc e failed
  rw [build, reloadShared, Outcome.andThen_eq_error_iff, Outcome.andThen_eq_error_iff]
  simp only [step]

theorem FileTree.stat_eq_ok_iff (t : FileTree) (path : Path) :
    (∃ n, t.stat path = .ok n) ↔ ∃ place, t.locate path = .ok place ∧ t.node? place ≠ none := by
  rw [stat]
  cases t.locate path with
  | error cause => simp
  | ok place => cases hn : t.node? place <;> simp [hn]

theorem FileTree.load_of_lost {t : FileTree} {path : Path} (lost : ∀ n, t.stat path ≠ .ok n) :
    ∃ e, t.load path = .error e ∧
      (e = .refused .absent path ∨ e = .denied ⟨.nameTooLong, path⟩) := by
  rw [load, read]
  cases hs : t.stat path with
  | ok n => exact absurd hs (lost n)
  | error cause =>
    cases cause with
    | nameTooLong => exact ⟨_, rfl, Or.inr rfl⟩
    | missing | alreadyThere | notDirectory | isDirectory | nul => exact ⟨_, rfl, Or.inl rfl⟩

/-- The path that asked first leads to the same place. -/
theorem World.Recalls.resolved?_first {w : World} {t : FileTree} {path : Path}
    {first : Option Path} (recalls : w.Recalls t (w.files.resolve path) first)
    (named : path.hasNul = false) :
    w.files.resolved? (first.getD path) = some (w.files.resolve path) := by
  cases first with
  | none => exact w.files.resolved?_of_named named
  | some q => rw [Option.getD_some, recalls.anchors.resolved?, recalls.leads q rfl]

/-- After sharing, the store of a path reads the path that asked first. -/
theorem World.Recalls.reloadShared {w : World} {t : FileTree} {path : Path} {first : Option Path}
    (recalls : w.Recalls t (w.files.resolve path) first) (named : path.hasNul = false) :
    w.reloadShared path = (w.files.load (first.getD path)).mapError .load := by
  have ok : ∃ h, (w.share path).result = .ok h := by
    rw [World.share, named, if_neg Bool.false_ne_true]
    exact ⟨_, rfl⟩
  obtain ⟨h, shared⟩ := ok
  obtain ⟨-, files, found, -⟩ := share_ok recalls.valid shared
  have asked := (recalls.share path).path
  have here : t.resolved? path = some (w.files.resolve path) := by
    rw [t.resolved?_of_named named, recalls.anchors.resolve]
  have settled : first.or (some path) = some (first.getD path) := by
    cases first <;> rfl
  rw [found, here, if_pos rfl, settled, Option.map_some] at asked
  rw [World.reloadShared, Outcome.andThen, shared]
  dsimp only
  rw [access, Store.result_reload, files, Option.some.inj asked]

/-- Whatever has happened to the stores and the files before, the shared store of a path that can be
loaded stands in for it as far as the path that asked for it first leads somewhere. -/
theorem shared_store_reads_first {files : FileTree} {env : Environment} {ops : List Op} {w : World}
    (stay : ∀ op ∈ ops, op.Stays files) (reached : w = World.run ops ⟨files, env, Shelf.empty⟩)
    (orderly : w.files.Orderly) {path : Path} {doc : Document}
    (loads : w.files.load path = .ok doc) :
    w.StandsIn path ((firstAsked files (w.files.resolve path) ops).getD path) doc := by
  have start : World.Recalls ⟨files, env, Shelf.empty⟩ files (w.files.resolve path) none :=
    ⟨Shelf.valid_of_nil rfl, FileTree.sameAnchors_refl files, rfl, fun q hq => nomatch hq⟩
  have recalls : w.Recalls files (w.files.resolve path)
      (firstAsked files (w.files.resolve path) ops) := by
    have after := start.run stay
    rwa [← reached] at after
  obtain ⟨named, octets, -, file⟩ := FileTree.file_of_load loads
  have reads := recalls.reloadShared named
  have leads := recalls.resolved?_first named
  generalize (firstAsked files (w.files.resolve path) ops).getD path = first at reads leads ⊢
  obtain ⟨named', place⟩ := FileTree.resolve_eq_of_resolved? named
    (leads.trans (w.files.resolved?_of_named named).symm)
  have faithful : w.reloadShared path = .ok doc ↔ ∃ n, w.files.stat first = .ok n := by
    rw [reads, FileTree.stat_eq_ok_iff, ← FileTree.load_iff_leads orderly loads place]
    cases w.files.load first <;> simp [Except.mapError]
  refine ⟨place, reads, faithful, fun lost => ?_, fun plain short => ?_, fun s e hs => ?_⟩
  · obtain ⟨e, failed, known⟩ := FileTree.load_of_lost lost
    exact ⟨e, by rw [reads, failed]; rfl, known⟩
  · rw [faithful, FileTree.stat_eq_ok_iff]
    have here : w.files.node? (w.files.resolve first) ≠ none := by
      rw [place]
      exact FileTree.node?_of_shape file
    exact ⟨_, FileTree.locate_plain orderly named' short plain here, here⟩
  · rw [← hs]
    exact w.build_load_error_iff s e

/-- A document next to a directory. -/
def FileTree.detour : FileTree :=
  ⟨[(["tokens.json"], .file (Text.Utf8.encode "\x7b\x7d".toList) 1), (["themes"], .directory 1)],
    [], [], 1⟩

theorem FileTree.orderly_detour : detour.Orderly := by
  have names (place : Place) (name : String) (there : detour.node? (place ++ [name]) ≠ none) :
      place = [] ∧ name ∈ ["tokens.json", "themes"] := by
    by_cases first : place ++ [name] = [] ++ ["tokens.json"]
    · obtain ⟨rfl, rfl⟩ := List.append_singleton_inj.mp first
      exact ⟨rfl, List.mem_cons_self⟩
    by_cases second : place ++ [name] = [] ++ ["themes"]
    · obtain ⟨rfl, rfl⟩ := List.append_singleton_inj.mp second
      exact ⟨rfl, List.mem_cons_of_mem _ List.mem_cons_self⟩
    · rw [List.nil_append] at first second
      simp [node?, detour, lookup_cons_ite, first, second] at there
  refine ⟨rfl, fun place name there => ?_, fun place name there => ?_, fun anchor octets => ?_⟩
  · rw [(names place name there).1]
    rfl
  · have short : ∀ n ∈ ["tokens.json", "themes"], n.utf8ByteSize ≤ maxName := by decide
    exact short name (names place name there).2
  · have directory : detour.shape (detour.anchorPlace anchor) = some none := by
      cases anchor <;> rfl
    rw [directory]
    simp

/-- The path of the document, and two that go through a directory. -/
def Path.direct : Path := ⟨.working, ["tokens.json"]⟩

def Path.through (directory : String) : Path := ⟨.working, [directory, "..", "tokens.json"]⟩

/-- The stores have been dropped since a path through a directory that is missing has asked. -/
def detours : List Op :=
  [.share (.through "missing"), .clear, .share (.through "themes"), .share .direct]

theorem shared_store_reads_first_detour :
    FileTree.detour.Orderly ∧ FileTree.detour.load .direct = .ok [] ∧
      firstAsked .detour ["tokens.json"] detours = some (.through "themes") ∧
      (World.run detours ⟨.detour, [], Shelf.empty⟩).reloadShared .direct = .ok [] := by
  have loads : FileTree.detour.load .direct = .ok [] := rfl
  have stay : ∀ op ∈ detours, op.Stays .detour := by
    simp [detours, Op.Stays]
  have standsIn : (World.run detours ⟨.detour, [], Shelf.empty⟩).StandsIn .direct
      (.through "themes") [] :=
    shared_store_reads_first stay rfl FileTree.orderly_detour loads
  have leads : FileTree.detour.stat (.through "themes") =
      .ok (.file (Text.Utf8.encode "\x7b\x7d".toList) 1) := rfl
  exact ⟨FileTree.orderly_detour, loads, rfl, standsIn.faithful.mpr ⟨_, leads⟩⟩

/-- A path through a directory that is missing has asked first, and the document cannot be had,
neither from the store nor for a build. -/
theorem lost_path_denies_document :
    FileTree.detour.load .direct = .ok [] ∧
      (World.run [.share (.through "missing")] ⟨.detour, [], Shelf.empty⟩).files = .detour ∧
      (World.run [.share (.through "missing")] ⟨.detour, [], Shelf.empty⟩).reloadShared .direct =
        .error (.load (.refused .absent (.through "missing"))) ∧
      ((World.run [.share (.through "missing")] ⟨.detour, [], Shelf.empty⟩).build
        ⟨.direct, ⟨.working, ["out"]⟩, Settings.defaultInterval⟩ none).result =
        .error (.load (.refused .absent (.through "missing"))) := by
  refine ⟨rfl, rfl, rfl, rfl⟩

end DesignTokens
