import DesignTokens.Watch
import DesignTokens.Proofs.Loading
import DesignTokens.Proofs.LostUpdate
import DesignTokens.Proofs.Reports
import DesignTokens.Proofs.SharedStores

/-!
# What breaks a build in watch mode

A build in watch mode answers with a report, or with none if the document is refused. It breaks only
at the errors that come out of loading as they are, at an output directory whose name has the
character NUL in it, and at an artifact whose text has no octets, since storing artifacts fails in no
other way. What breaks the first build ends the watch.
-/

namespace DesignTokens

/-- The problems that a build of a store does not answer. -/
inductive World.Breaks (w : World) (s : Settings) (h : Handle) : Problem → Prop
  | loading {e : LoadError} (escapes : e.Escapes w.files (w.shelf.store h).path) :
    Breaks w s h (.load e)
  | storing {doc : Document} (loaded : w.files.load (w.shelf.store h).path = .ok doc)
    (nul : s.output.hasNul = true) : Breaks w s h (.file ⟨.nul, s.output⟩)
  | encoding {doc : Document} (loaded : w.files.load (w.shelf.store h).path = .ok doc)
    (named : s.output.hasNul = false) {f : Text.EncodingFault}
    (stops : (compile builtin doc).findSome? (Artifact.stopsIn? w.files s.output) = some f) :
    Breaks w s h (.encoding f.message)

/-- They are none of the theme compiler's. -/
theorem World.Breaks.className {w : World} {s : Settings} {h : Handle} {p : Problem}
    (breaks : w.Breaks s h p) :
    p.isThemeError = false ∧ p.className ∈ ["OSError", "ValueError", "OverflowError", "IndexError",
      "KeyError", "AttributeError", "TypeError", "UnicodeEncodeError"] := by
  cases breaks with
  | loading escapes =>
    obtain ⟨unknown, known⟩ := escapes.className
    exact ⟨by simp [Problem.isThemeError, unknown], List.mem_append_left ["UnicodeEncodeError"] known⟩
  | storing loaded nul => exact ⟨rfl, by simp [Problem.className, FileCause.className]⟩
  | encoding loaded named stops => exact ⟨rfl, by simp [Problem.className]⟩

/-- Storing artifacts fails only at the name of the output directory and at a text without octets. -/
theorem World.produce_eq_error_iff (w : World) (output : Path) (doc : Document) (p : Problem) :
    (w.produce output doc).result = .error p ↔
      (output.hasNul = true ∧ p = .file ⟨.nul, output⟩) ∨
        (output.hasNul = false ∧ ∃ f,
          (compile builtin doc).findSome? (Artifact.stopsIn? w.files output) = some f ∧
            p = .encoding f.message) := by
  have result : (w.produce output doc).result =
      (writeArtifacts w.files (compile builtin doc) output).result := rfl
  rw [result, result_compile builtin_names_nodup fileName_builtin]
  cases nul : output.hasNul with
  | true => simp [eq_comm]
  | false =>
    cases (compile builtin doc).findSome? (Artifact.stopsIn? w.files output) with
    | none => simp
    | some f => simp [Problem.ofFault, eq_comm]

theorem World.build_eq_error_iff (w : World) (s : Settings) (h : Handle) (p : Problem) :
    (w.build s (some h)).result = .error p ↔
      (∃ e, w.files.load (w.shelf.store h).path = .error e ∧ p = .load e) ∨
        ∃ doc, w.files.load (w.shelf.store h).path = .ok doc ∧
          (w.produce s.output doc).result = .error p := by
  have result : (w.build s (some h)).result = ((w.access h Store.reload).andThen
      fun w doc => w.produce s.output doc).result := rfl
  have read : (w.access h Store.reload).result =
      (w.files.load (w.shelf.store h).path).mapError .load := by
    rw [access, Store.result_reload]
  rw [result, Outcome.andThen_eq_error_iff, read]
  cases w.files.load (w.shelf.store h).path with
  | error e =>
    simp only [Except.mapError, Except.error.injEq, reduceCtorEq, false_and, exists_false, or_false]
    constructor
    · intro same
      exact ⟨e, rfl, same.symm⟩
    · rintro ⟨_, he, same⟩
      exact he ▸ same.symm
  | ok doc =>
    have same : ((w.access h Store.reload).world.produce s.output doc).result =
        (w.produce s.output doc).result := rfl
    simp [Except.mapError, same]

/-- A build in watch mode breaks at the problems of the build that are no errors of the theme
compiler. -/
theorem World.rebuild_eq_error_iff_build (w : World) (s : Settings) (h : Handle) (p : Problem) :
    (w.rebuild s h).result = .error p ↔
      (w.build s (some h)).result = .error p ∧ p.isThemeError = false := by
  rw [rebuild]
  cases (w.build s (some h)).result with
  | ok r => simp
  | error q =>
    simp only
    split
    case isTrue known =>
      constructor
      · intro answered
        cases answered
      · rintro ⟨same, unknown⟩
        cases same
        simp [known] at unknown
    case isFalse unknown =>
      simp only [Bool.not_eq_true] at unknown
      constructor
      · intro same
        cases same
        exact ⟨rfl, unknown⟩
      · rintro ⟨same, -⟩
        cases same
        rfl

theorem World.rebuild_eq_error_iff (w : World) (s : Settings) (h : Handle) (p : Problem) :
    (w.rebuild s h).result = .error p ↔ w.Breaks s h p := by
  rw [rebuild_eq_error_iff_build, build_eq_error_iff]
  constructor
  · rintro ⟨⟨e, failed, rfl⟩ | ⟨doc, loaded, unstored⟩, unknown⟩
    · rcases FileTree.load_error failed with refuses | escapes
      · obtain ⟨te, known, -⟩ := refuses.themeError?
        simp [Problem.isThemeError, known] at unknown
      · exact .loading escapes
    · rcases (w.produce_eq_error_iff s.output doc p).mp unstored with
        ⟨nul, rfl⟩ | ⟨named, f, stops, rfl⟩
      · exact .storing loaded nul
      · exact .encoding loaded named stops
  · intro breaks
    refine ⟨?_, breaks.className.1⟩
    cases breaks with
    | loading escapes => exact Or.inl ⟨_, FileTree.load_of_escapes escapes, rfl⟩
    | storing loaded nul =>
      exact Or.inr ⟨_, loaded, (w.produce_eq_error_iff _ _ _).mpr (Or.inl ⟨nul, rfl⟩)⟩
    | encoding loaded named stops =>
      exact Or.inr ⟨_, loaded, (w.produce_eq_error_iff _ _ _).mpr (Or.inr ⟨named, _, stops, rfl⟩)⟩

/-- There is no report just if the document is refused. -/
theorem World.rebuild_eq_none_iff (w : World) (s : Settings) (h : Handle) :
    (w.rebuild s h).result = .ok none ↔
      ∃ e, w.files.load (w.shelf.store h).path = .error e ∧
        e.Refuses (w.shelf.store h).path := by
  have answered : (w.rebuild s h).result = .ok none ↔
      ∃ p, (w.build s (some h)).result = .error p ∧ p.isThemeError = true := by
    rw [rebuild]
    cases (w.build s (some h)).result with
    | ok r => simp
    | error q => cases hq : q.isThemeError <;> simp [hq]
  rw [answered]
  constructor
  · rintro ⟨p, unbuilt, known⟩
    rcases (w.build_eq_error_iff s h p).mp unbuilt with ⟨e, failed, rfl⟩ | ⟨doc, -, unstored⟩
    · refine ⟨e, failed, (FileTree.load_error failed).resolve_right fun escapes => ?_⟩
      simp [Problem.isThemeError, escapes.className.1] at known
    · rcases (w.produce_eq_error_iff s.output doc p).mp unstored with ⟨-, rfl⟩ | ⟨-, f, -, rfl⟩ <;>
        cases known
  · rintro ⟨e, failed, refuses⟩
    obtain ⟨te, known, -⟩ := refuses.themeError?
    exact ⟨.load e, (w.build_eq_error_iff s h _).mpr (Or.inl ⟨e, failed, rfl⟩),
      by simp [Problem.isThemeError, known]⟩

section

variable {α : Type} {tell : Telling α}

/-- A watch whose builds are told without failing ends early only where it starts: at the name of the
document, or at its first build. -/
theorem World.watch_eq_error_iff (tells : ∀ r, ∃ a, tell r = .ok a) (w : World) (s : Settings)
    (h : Handle) (edits : List Edit) (ending : Ending) (p : Problem) :
    (w.watch s h tell edits ending).result = .error p ↔
      (s.tokens.hasNul = true ∧ p = .file ⟨.nul, s.tokens⟩) ∨
        (s.tokens.hasNul = false ∧ w.Breaks s h p) := by
  have told : (w.rebuildTelling s h tell).result = .error p ↔ w.Breaks s h p := by
    rw [rebuildTelling, Outcome.andThen_eq_error_iff, rebuild_eq_error_iff]
    refine or_iff_left ?_
    rintro ⟨r, -, failed⟩
    obtain ⟨a, ha⟩ := tells r
    rw [ha] at failed
    cases failed
  rw [watch, Outcome.andThen_eq_error_iff, or_iff_left (by simp)]
  rw [startWatch, Watcher.snapshot]
  cases nul : s.tokens.hasNul with
  | true => simp [Watcher.ofPath, nul, eq_comm]
  | false =>
    simp only [Watcher.ofPath, nul, Bool.false_eq_true, if_false]
    rw [Outcome.andThen_eq_error_iff, told]
    simp

/-- A build in watch mode gives a report, or none just if the document is refused, unless it breaks,
and then its error is none of the theme compiler's. A watch whose builds are told without failing ends
early exactly if its first build breaks, or if the name of the document is one that no file can
have. -/
theorem watch_outlives_builds (tells : ∀ r, ∃ a, tell r = .ok a) (w : World) (s : Settings)
    (h : Handle) (edits : List Edit) (ending : Ending) :
    (∀ p, (w.rebuild s h).result = .error p ↔ w.Breaks s h p) ∧
    ((w.rebuild s h).result = .ok none ↔
      ∃ e, w.files.load (w.shelf.store h).path = .error e ∧ e.Refuses (w.shelf.store h).path) ∧
    (∀ p, w.Breaks s h p → p.isThemeError = false ∧ p.className ∈ ["OSError", "ValueError",
      "OverflowError", "IndexError", "KeyError", "AttributeError", "TypeError",
      "UnicodeEncodeError"]) ∧
    ∀ p, (w.watch s h tell edits ending).result = .error p ↔
      (s.tokens.hasNul = true ∧ p = .file ⟨.nul, s.tokens⟩) ∨
        (s.tokens.hasNul = false ∧ w.Breaks s h p) :=
  ⟨w.rebuild_eq_error_iff s h, w.rebuild_eq_none_iff s h, fun _ breaks => breaks.className,
    w.watch_eq_error_iff tells s h edits ending⟩

end

/-- A world with one file, the document, and its store. -/
def World.ofDocument (octets : List UInt8) (time : Time) : World :=
  ⟨⟨[(["tokens.json"], .file octets time)], [], [], time⟩, [],
    ⟨[.ofPath Settings.nearby.tokens], []⟩⟩

/-- A list is refused as a document, and the watch goes on. -/
theorem watch_outlives_builds_list :
    ((World.ofDocument [91, 93] 1).rebuild .nearby 0).result = .ok none ∧
      ∀ edits ending p, ((World.ofDocument [91, 93] 1).watch .nearby 0 .ok edits ending).result ≠
        .error p := by
  have tells (r : Option Report) : ∃ a, (.ok r : Except Problem _) = .ok a := ⟨r, rfl⟩
  have outlives := watch_outlives_builds tells (World.ofDocument [91, 93] 1) .nearby 0
  have refused : (World.ofDocument [91, 93] 1).files.load Settings.nearby.tokens =
      .error (.refused (.shape .list) Settings.nearby.tokens) := rfl
  have unreported := (outlives [] .stop).2.1.mpr ⟨_, refused, _, rfl⟩
  refine ⟨unreported, fun edits ending p failed => ?_⟩
  obtain ⟨broken, -, -, early⟩ := outlives edits ending
  rcases (early p).mp failed with ⟨nul, -⟩ | ⟨-, breaks⟩
  · cases nul
  · rw [(broken p).mpr breaks] at unreported
    cases unreported

/-- The document is a number of one digit too many. -/
def World.longNumber : World := .ofDocument (List.replicate 4301 0x31) 1

/-- Its build answers nothing, and ends the watch that it is the first build of. -/
theorem longNumber_ends_watch :
    (World.longNumber.rebuild .nearby 0).result = .error (.load (.digits 4301)) ∧
      (Problem.load (.digits 4301)).className = "ValueError" ∧
      ∀ edits ending, (World.longNumber.watch .nearby 0 (.ok : Telling (Option Report)) edits
        ending).result = .error (.load (.digits 4301)) := by
  have read : World.longNumber.files.read Settings.nearby.tokens =
      .ok (List.replicate 4301 0x31) := rfl
  have escapes : (LoadError.digits 4301).Escapes World.longNumber.files
      (World.longNumber.shelf.store 0).path := LoadError.escapes_of_ones read rfl (by decide)
  have breaks : World.longNumber.Breaks .nearby 0 (.load (.digits 4301)) := .loading escapes
  refine ⟨(World.rebuild_eq_error_iff _ _ _ _).mpr breaks, rfl, fun edits ending => ?_⟩
  exact (World.watch_eq_error_iff (fun r => ⟨r, rfl⟩) _ _ _ _ _ _).mpr (Or.inr ⟨rfl, breaks⟩)

end DesignTokens
