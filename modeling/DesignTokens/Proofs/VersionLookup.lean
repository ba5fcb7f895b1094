import DesignTokens.Version
import DesignTokens.Proofs.FileTree
import DesignTokens.Proofs.LookUps
import DesignTokens.Proofs.TomlReading

/-!
# What the version can be

A checkout has the version that the project table of its project file states, and the unknown one if
nothing is stated. There are project files that cannot be asked for a version, and ones that state a
version which is no text.
-/

namespace DesignTokens.Version

/-- The octets of the file at a place; there are none if nothing is there, or a directory. -/
def fileAt (files : FileTree) (place : Place) : Option (List UInt8) :=
  (files.node? place).bind Node.octets?

/-- The entries of a project file that can be read. -/
def Holds (project : Option (List UInt8)) (es : Entries) : Prop :=
  ∃ octets cs, project = some octets ∧ Text.Utf8.decode octets = .ok cs ∧ Toml.parse cs = .ok es

/-- A project file has a table of this project in it that states a version. -/
def States (project : Option (List UInt8)) (v : Value) : Prop :=
  ∃ es table, Holds project es ∧ es.get? "project" = some (.map table) ∧
    Entries.get? table "name" = some (.text distribution) ∧ Entries.get? table "version" = some v

/-- Why a project file cannot be asked: its octets are no text, a number in it has too many digits,
or its project is no table. -/
inductive Fault.Arises (project : Option (List UInt8)) : Fault → Prop
  | encoding {octets : List UInt8} {fault : Text.Utf8.Fault} (read : project = some octets)
    (undecodable : Text.Utf8.decode octets = .error fault) : Arises project (.encoding fault)
  | digits {octets : List UInt8} {cs : List Char} {count : Nat} (read : project = some octets)
    (decoded : Text.Utf8.decode octets = .ok cs)
    (parsed : Toml.parse cs = .error (.digits count)) : Arises project (.digits count)
  | notTable {es : Entries} {v : Value} (holds : Holds project es)
    (found : es.get? "project" = some v) (noTable : v.entries? = none) :
    Arises project (.notTable v.kind)

/-- The values that state no version. -/
inductive Empty : Value → Prop
  | null : Empty .null
  | false : Empty (.bool false)
  | scalar {s : Scalar} (blank : s.Blank) : Empty (.scalar s)
  | list : Empty (.list [])
  | map : Empty (.map [])

theorem isEmpty_iff (v : Value) : isEmpty v = true ↔ Empty v := by
  constructor
  · intro empty
    unfold isEmpty at empty
    split at empty
    · exact .list
    · exact .map
    · cases empty
    · cases empty
    · rcases v.isVoid_iff.mp empty with rfl | rfl | ⟨s, rfl, blank⟩
      · exact .null
      · exact .false
      · exact .scalar blank
  · intro empty
    cases empty with
    | null | false | list | map => rfl
    | @scalar s blank => exact s.isVoid_iff.mpr blank

section
variable {project : Option (List UInt8)} {fault : Fault} {v : Value}

theorem ofDocument_eq_error_iff (es : Entries) :
    ofDocument es = .error fault ↔
      ∃ v, es.get? "project" = some v ∧ v.entries? = none ∧ fault = .notTable v.kind := by
  unfold ofDocument
  cases es.get? "project" with
  | none => simp
  | some v =>
    cases v with
    | map table =>
      dsimp only
      split <;> simp [Value.entries?]
    | atom a | list items | tuple items | set members => simp [Value.entries?, eq_comm]

theorem ofDocument_eq_some_iff (es : Entries) :
    ofDocument es = .ok (some v) ↔ ∃ table, es.get? "project" = some (.map table) ∧
      Entries.get? table "name" = some (.text distribution) ∧
      Entries.get? table "version" = some v := by
  unfold ofDocument
  cases es.get? "project" with
  | none => simp
  | some w =>
    cases w with
    | map table =>
      dsimp only
      split
      · rename_i name named
        by_cases same : name = distribution <;> simp [named, same]
      · rename_i other
        simpa using fun named _ => other distribution named
    | atom a | list items | tuple items | set members => simp

theorem ofCheckout_of_holds {es : Entries} (holds : Holds project es) :
    ofCheckout project = ofDocument es := by
  obtain ⟨octets, cs, rfl, decoded, parsed⟩ := holds
  rw [ofCheckout, ofProject, decoded]
  dsimp only
  rw [parsed]

/-- What a cause comes to. -/
theorem ofCheckout_of_arises (arises : fault.Arises project) :
    ofCheckout project = .error fault := by
  cases arises with
  | encoding read undecodable =>
    rw [read, ofCheckout, ofProject, undecodable]
  | digits read decoded parsed =>
    rw [read, ofCheckout, ofProject, decoded]
    dsimp only
    rw [parsed]
  | notTable holds found noTable =>
    rw [ofCheckout_of_holds holds, ofDocument_eq_error_iff]
    exact ⟨_, found, noTable, rfl⟩

/-- A project file has entries, or it cannot be asked, or it tells nothing. -/
theorem ofCheckout_cases (project : Option (List UInt8)) :
    (∃ es, Holds project es) ∨ (∃ fault : Fault, fault.Arises project) ∨
      ofCheckout project = .ok none := by
  cases project with
  | none => exact Or.inr (Or.inr rfl)
  | some octets =>
    cases decoded : Text.Utf8.decode octets with
    | error fault => exact Or.inr (Or.inl ⟨_, .encoding rfl decoded⟩)
    | ok cs =>
      cases parsed : Toml.parse cs with
      | ok es => exact Or.inl ⟨es, octets, cs, rfl, decoded, parsed⟩
      | error e =>
        cases e with
        | malformed =>
          refine Or.inr (Or.inr ?_)
          rw [ofCheckout, ofProject, decoded]
          dsimp only
          rw [parsed]
        | digits count => exact Or.inr (Or.inl ⟨_, .digits rfl decoded parsed⟩)

/-- A project file cannot be asked for its version just for these causes. -/
theorem ofCheckout_eq_error_iff : ofCheckout project = .error fault ↔ fault.Arises project := by
  refine ⟨fun failed => ?_, ofCheckout_of_arises⟩
  rcases ofCheckout_cases project with ⟨es, holds⟩ | ⟨fault', arises⟩ | nothing
  · rw [ofCheckout_of_holds holds, ofDocument_eq_error_iff] at failed
    obtain ⟨v, found, noTable, rfl⟩ := failed
    exact .notTable holds found noTable
  · rw [ofCheckout_of_arises arises] at failed
    exact Except.error.inj failed ▸ arises
  · rw [nothing] at failed
    cases failed

theorem ofCheckout_eq_some_iff : ofCheckout project = .ok (some v) ↔ States project v := by
  constructor
  · intro told
    rcases ofCheckout_cases project with ⟨es, holds⟩ | ⟨fault, arises⟩ | nothing
    · rw [ofCheckout_of_holds holds, ofDocument_eq_some_iff] at told
      obtain ⟨table, found⟩ := told
      exact ⟨es, table, holds, found⟩
    · rw [ofCheckout_of_arises arises] at told
      cases told
    · rw [nothing] at told
      cases told
  · rintro ⟨es, table, holds, found⟩
    rw [ofCheckout_of_holds holds, ofDocument_eq_some_iff]
    exact ⟨table, found⟩

theorem current_none (project : Option (List UInt8)) :
    current none project = (ofCheckout project).map fun
      | some v => if isEmpty v then .text unknown else v
      | none => .text unknown := by
  unfold current
  rcases ofCheckout project with fault | ⟨⟩ | v <;> rfl

theorem current_eq_error_iff : current none project = .error fault ↔ fault.Arises project := by
  rw [← ofCheckout_eq_error_iff, current_none]
  cases ofCheckout project <;> simp [Except.map]

/-- The version of a checkout is the value that its project file states, unless that is an empty
one, and the unknown version where nothing else is stated. -/
theorem current_eq_ok_iff :
    current none project = .ok v ↔
      (States project v ∧ ¬ Empty v) ∨
        (v = .text unknown ∧ (∀ fault : Fault, ¬ fault.Arises project) ∧
          ∀ u, States project u → Empty u) := by
  simp only [← ofCheckout_eq_error_iff, ← ofCheckout_eq_some_iff, ← isEmpty_iff]
  rw [current_none]
  rcases ofCheckout project with fault | ⟨⟩ | u
  · simp [Except.map]
  · simpa [Except.map] using eq_comm
  · by_cases empty : isEmpty u = true
    · have none : ¬ (u = v ∧ isEmpty v = false) := by
        rintro ⟨rfl, full⟩
        rw [empty] at full
        cases full
      simpa [Except.map, empty, none] using eq_comm
    · have full (same : u = v) : isEmpty v = false := by simpa [← same] using empty
      simpa [Except.map, empty] using full

/-- There is a version in a text just if nothing fails and nothing else is stated. -/
theorem exists_text_iff :
    (∃ version, current none project = .ok (.text version)) ↔
      (∀ fault : Fault, ¬ fault.Arises project) ∧
        ∀ u, States project u → Empty u ∨ ∃ version, u = .text version := by
  constructor
  · rintro ⟨version, told⟩
    refine ⟨fun fault arises => ?_, fun u states => ?_⟩
    · rw [current_eq_error_iff.mpr arises] at told
      cases told
    · refine or_iff_not_imp_left.mpr fun full => ⟨version, ?_⟩
      have stated := current_eq_ok_iff.mpr (Or.inl ⟨states, full⟩)
      exact Except.ok.inj (stated.symm.trans told)
  · rintro ⟨sound, texts⟩
    cases told : current none project with
    | error fault => exact absurd (current_eq_error_iff.mp told) (sound fault)
    | ok v =>
      rcases current_eq_ok_iff.mp told with ⟨states, full⟩ | ⟨rfl, -⟩
      · obtain ⟨version, rfl⟩ := (texts v states).resolve_left full
        exact ⟨version, rfl⟩
      · exact ⟨unknown, rfl⟩

theorem className_of_arises (arises : fault.Arises project) :
    fault.className ∈ ["UnicodeDecodeError", "ValueError", "AttributeError"] := by
  cases arises <;> simp [Fault.className]

/-- The digits that make a project file fail stand in it. -/
theorem longRun_of_arises {count : Nat} (arises : (Fault.digits count).Arises project) :
    ∃ octets cs, project = some octets ∧ Text.Utf8.decode octets = .ok cs ∧
      Toml.LongRun (Toml.joinLineEnds cs) count := by
  cases arises with
  | digits read decoded parsed => exact ⟨_, _, read, decoded, Toml.longRun_of_parse parsed⟩

end

/-- The version of an installed distribution is what it says. Else it is the value that the table of
this project states in the project file, if there is one and it is not empty, and the unknown
version if nothing is stated. It is no version at all just if the octets of the file are no text, a
number in it has too many digits or its project is no table, and a text unless it is stated as
something else. -/
theorem version_is_told (files : FileTree) (place : Place) :
    let project := fileAt files place
    (∀ version, current (some version) project = .ok (.text version)) ∧
      (∀ fault, current none project = .error fault ↔ fault.Arises project) ∧
      (∀ v, current none project = .ok v ↔ (States project v ∧ ¬ Empty v) ∨
        (v = .text unknown ∧ (∀ fault : Fault, ¬ fault.Arises project) ∧
          ∀ u, States project u → Empty u)) ∧
      ((∃ version, current none project = .ok (.text version)) ↔
        (∀ fault : Fault, ¬ fault.Arises project) ∧
          ∀ u, States project u → Empty u ∨ ∃ version, u = .text version) ∧
      (∀ fault : Fault, fault.Arises project →
        fault.className ∈ ["UnicodeDecodeError", "ValueError", "AttributeError"]) ∧
      ∀ count, (Fault.digits count).Arises project → ∃ octets cs, project = some octets ∧
        Text.Utf8.decode octets = .ok cs ∧ Toml.LongRun (Toml.joinLineEnds cs) count := by
  intro project
  exact ⟨fun version => rfl, fun fault => current_eq_error_iff, fun v => current_eq_ok_iff,
    exists_text_iff, fun fault => className_of_arises, fun count => longRun_of_arises⟩

/-- A directory with a project file. -/
def checkout (octets : List UInt8) : FileTree :=
  { nodes := [(["pyproject.toml"], .file octets 0)], working := [], bundled := ["theme"],
    clock := 0 }

/-- The type of the version of a checkout with a project file. -/
def kindIn (octets : List UInt8) : Except Fault Kind :=
  (current none (fileAt (checkout octets) ["pyproject.toml"])).map Value.kind

/-- There is no version where the project file is no text or its project is no table, and one that
is a whole number can be stated. -/
theorem undecodable_project_fails :
    kindIn [0xFF] = .error (.encoding ⟨0xFF, 0, 1, .start⟩) ∧
      kindIn (Text.Utf8.encode "project = 1".toList) = .error (.notTable .int) ∧
      kindIn (Text.Utf8.encode "[project]\nname = \"prsm-theme\"\nversion = 3".toList) =
        .ok .int := by
  decide +kernel

end DesignTokens.Version
