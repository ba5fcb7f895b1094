import DesignTokens.Proofs.FileTree
import DesignTokens.Proofs.JsonReading
import DesignTokens.Proofs.StoreCache

/-!
# What loading a document can come to

Loading gives a document, or the error of the theme compiler for a missing input, but for three
causes whose errors come out as they are: a name that is too long to be looked for, a whole number
of too many digits in a JSON text, and a scalar that does not fit its tag in a YAML text. A look
into a store lets the same errors out.
-/

namespace DesignTokens

/-- The errors that come out of loading although they are none of the theme compiler's. -/
inductive LoadError.Escapes (t : FileTree) (file : Path) : LoadError → Prop
  | name (refused : t.locate file = .error .nameTooLong) :
    Escapes t file (.denied ⟨.nameTooLong, file⟩)
  | digits {octets : List UInt8} {cs : List Char} {count : Nat} (read : t.read file = .ok octets)
    (decoded : Text.Utf8.decode octets = .ok cs) (json : file.isYaml = false)
    (parsed : Json.parse (Text.normalizeNewlines cs) = .error (.digits count)) :
    Escapes t file (.digits count)
  | scalar {octets : List UInt8} {cs : List Char} {fault : Yaml.Fault}
    (read : t.read file = .ok octets) (decoded : Text.Utf8.decode octets = .ok cs)
    (yaml : file.isYaml = true)
    (parsed : Yaml.parse (Text.normalizeNewlines cs) = .error fault)
    (unfit : fault ≠ .malformed) : Escapes t file (.scalar fault)

/-- A refusal says why, and of which file. -/
def LoadError.Refuses (file : Path) (e : LoadError) : Prop := ∃ cause, e = .refused cause file

theorem FileTree.read_eq_nameTooLong {t : FileTree} {file path : Path}
    (failed : t.read file = .error ⟨.nameTooLong, path⟩) :
    path = file ∧ t.locate file = .error .nameTooLong := by
  rw [read, stat] at failed
  cases hl : t.locate file with
  | error cause =>
    rw [hl] at failed
    cases failed
    exact ⟨rfl, rfl⟩
  | ok place =>
    rw [hl] at failed
    dsimp only at failed
    cases hn : t.node? place with
    | none =>
      rw [hn] at failed
      cases failed
    | some n =>
      rw [hn] at failed
      cases n <;> cases failed

theorem parseAs_error {file : Path} {cs : List Char} {e : LoadError}
    (failed : parseAs file cs = .error e) :
    e.Refuses file ∨
      (file.isYaml = false ∧ ∃ count, e = .digits count ∧ Json.parse cs = .error (.digits count)) ∨
      (file.isYaml = true ∧
        ∃ fault, e = .scalar fault ∧ Yaml.parse cs = .error fault ∧ fault ≠ .malformed) := by
  unfold parseAs at failed
  split at failed
  · rename_i yaml
    split at failed
    · cases failed
    · cases failed
      exact Or.inl ⟨.yaml, rfl⟩
    · rename_i fault unfit parsed
      cases failed
      exact Or.inr (Or.inr ⟨yaml, fault, rfl, parsed, unfit⟩)
  · rename_i json
    split at failed
    · cases failed
    · rename_i cause place _
      cases failed
      exact Or.inl ⟨.json cause place, rfl⟩
    · rename_i count parsed
      cases failed
      exact Or.inr (Or.inl ⟨by simpa using json, count, rfl, parsed⟩)

/-- A document that cannot be loaded is refused, or its error escapes. -/
theorem FileTree.load_error {t : FileTree} {file : Path} {e : LoadError}
    (failed : t.load file = .error e) : e.Refuses file ∨ e.Escapes t file := by
  rw [load] at failed
  split at failed
  · rename_i path hread
    cases failed
    obtain ⟨rfl, refused⟩ := read_eq_nameTooLong hread
    exact Or.inr (.name refused)
  · cases failed
    exact Or.inl ⟨.absent, rfl⟩
  · rename_i octets hread
    rw [parseDocument] at failed
    split at failed
    · rename_i fault _
      cases failed
      exact Or.inl ⟨.encoding fault, rfl⟩
    · rename_i cs decoded
      split at failed
      · rename_i e' hparse
        cases failed
        rcases parseAs_error hparse with refused | ⟨json, count, rfl, parsed⟩ |
          ⟨yaml, fault, rfl, parsed, unfit⟩
        · exact Or.inl refused
        · exact Or.inr (.digits hread decoded json parsed)
        · exact Or.inr (.scalar hread decoded yaml parsed unfit)
      · cases failed
      · rename_i v _ _
        cases failed
        exact Or.inl ⟨.shape v.kind, rfl⟩

theorem FileTree.load_eq_ok_iff (t : FileTree) (path : Path) (doc : Document) :
    t.load path = .ok doc ↔ ∃ octets, t.read path = .ok octets ∧
      parseDocument path octets = .ok doc := by
  rw [load]
  split
  · rename_i e refused
    simp [refused]
  · rename_i e _ refused
    simp [refused]
  · rename_i octets read
    simp [read]

theorem FileTree.load_of_parseAs {t : FileTree} {file : Path} {octets : List UInt8}
    {cs : List Char} {e : LoadError} (hread : t.read file = .ok octets)
    (decoded : Text.Utf8.decode octets = .ok cs)
    (failed : parseAs file (Text.normalizeNewlines cs) = .error e) : t.load file = .error e := by
  rw [load, hread]
  dsimp only
  rw [parseDocument, decoded]
  dsimp only
  rw [failed]

theorem FileTree.load_of_escapes {t : FileTree} {file : Path} {e : LoadError}
    (escapes : e.Escapes t file) : t.load file = .error e := by
  cases escapes with
  | name refused =>
    have hread : t.read file = .error ⟨.nameTooLong, file⟩ := by
      simp only [read, stat, refused]
    rw [load, hread]
  | digits hread decoded json parsed =>
    refine load_of_parseAs hread decoded ?_
    rw [parseAs, json, if_neg Bool.false_ne_true, parsed]
  | scalar hread decoded yaml parsed unfit =>
    refine load_of_parseAs hread decoded ?_
    rw [parseAs, if_pos yaml, parsed]
    split
    · rename_i h
      cases h
    · rename_i h
      exact absurd (Except.error.inj h) unfit
    · rename_i fault _ h
      rw [Except.error.inj h]

theorem LoadError.Refuses.themeError? {file : Path} {e : LoadError} (refuses : e.Refuses file) :
    ∃ te, e.themeError? = some te ∧ te.cls = .missingInput ∧ te.location = some ⟨none, some file⟩ ∧
      te.text = e.text := by
  obtain ⟨cause, rfl⟩ := refuses
  exact ⟨_, rfl, rfl, rfl, rfl⟩

/-- What escapes has a class of its own. -/
theorem LoadError.Escapes.className {t : FileTree} {file : Path} {e : LoadError}
    (escapes : e.Escapes t file) :
    e.themeError? = none ∧ e.className ∈ ["OSError", "ValueError", "OverflowError", "IndexError",
      "KeyError", "AttributeError", "TypeError"] := by
  cases escapes with
  | name refused => exact ⟨rfl, by simp [LoadError.className, FileCause.className]⟩
  | digits hread decoded json parsed =>
    exact ⟨rfl, by simp [LoadError.className, Yaml.FaultClass.name]⟩
  | @scalar _ _ fault hread decoded yaml parsed unfit =>
    refine ⟨rfl, ?_⟩
    cases fault with
    | malformed => exact absurd rfl unfit
    | codePoint n =>
      rw [LoadError.className, Yaml.Fault.class?]
      split <;> decide
    | integer base text | digits count | double text | emptyNumber | truth text | timestamp | year n
    | calendar part | offset seconds | weight | notText =>
      rw [LoadError.className, Yaml.Fault.class?]
      decide

/-- A JSON text whose digits make loading fail has a run of too many. -/
theorem LoadError.Escapes.longRun {t : FileTree} {file : Path} {count : Nat}
    (escapes : (LoadError.digits count).Escapes t file) :
    ∃ octets cs, t.read file = .ok octets ∧ Text.Utf8.decode octets = .ok cs ∧
      Json.LongRun (Text.normalizeNewlines cs) count := by
  cases escapes with
  | digits hread decoded json parsed =>
    exact ⟨_, _, hread, decoded, Json.longRun_of_parse parsed⟩

theorem LoadError.Escapes.tolerated {t : FileTree} {file : Path} {e : LoadError}
    (escapes : e.Escapes t file) : Store.tolerated (.error e) = .error e := by
  cases escapes <;> rfl

/-- A look into a store fails only if there is nothing in it and the error escapes. -/
theorem Store.get_error_iff (s : Store) (t : FileTree) (e : LoadError) :
    (s.get t).result = .error e ↔ s.document = none ∧ e.Escapes t s.path := by
  rw [result_get]
  cases hd : s.document with
  | some doc => simp [load_of_document hd, tolerated]
  | none =>
    rw [load_of_none hd, result_reload]
    refine ⟨fun failed => ⟨rfl, ?_⟩, fun ⟨_, escapes⟩ => ?_⟩
    · cases hl : t.load s.path with
      | ok doc =>
        rw [hl] at failed
        cases failed
      | error e' =>
        rw [hl] at failed
        rcases FileTree.load_error hl with ⟨cause, rfl⟩ | escapes
        · cases failed
        · rw [escapes.tolerated] at failed
          exact Except.error.inj failed ▸ escapes
    · rw [FileTree.load_of_escapes escapes, escapes.tolerated]

/-- For every file and every name, loading gives a document, refuses the file as the theme compiler
does, or lets one of the other errors out, and it does that just for their causes; digits are such a
cause only in a text with a long run of them. A look into a store gives the document or none but for
the same errors. -/
theorem load_escapes_iff (t : FileTree) (file : Path) :
    ((∃ doc, t.load file = .ok doc) ∨
      (∃ e te, t.load file = .error e ∧ e.themeError? = some te ∧ te.cls = .missingInput ∧
        te.location = some ⟨none, some file⟩) ∨
      ∃ e, t.load file = .error e ∧ e.Escapes t file) ∧
    (∀ e, (t.load file = .error e ∧ e.themeError? = none) ↔ e.Escapes t file) ∧
    (∀ e : LoadError, e.Escapes t file → e.className ∈ ["OSError", "ValueError", "OverflowError",
      "IndexError", "KeyError", "AttributeError", "TypeError"]) ∧
    (∀ count, (LoadError.digits count).Escapes t file → ∃ octets cs, t.read file = .ok octets ∧
      Text.Utf8.decode octets = .ok cs ∧ Json.LongRun (Text.normalizeNewlines cs) count) ∧
    ∀ kept e, ((Store.mk file kept).get t).result = .error e ↔ kept = none ∧ e.Escapes t file := by
  refine ⟨?_, fun e => ⟨?_, ?_⟩, fun e escapes => escapes.className.2,
    fun count escapes => escapes.longRun, ?_⟩
  · cases hl : t.load file with
    | ok doc => exact Or.inl ⟨doc, rfl⟩
    | error e =>
      rcases FileTree.load_error hl with refuses | escapes
      · obtain ⟨te, known, cls, location, -⟩ := refuses.themeError?
        exact Or.inr (Or.inl ⟨e, te, rfl, known, cls, location⟩)
      · exact Or.inr (Or.inr ⟨e, rfl, escapes⟩)
  · rintro ⟨failed, unknown⟩
    rcases FileTree.load_error failed with refuses | escapes
    · obtain ⟨te, known, -⟩ := refuses.themeError?
      rw [unknown] at known
      cases known
    · exact escapes
  · intro escapes
    exact ⟨FileTree.load_of_escapes escapes, escapes.className.1⟩
  · intro kept e
    exact (Store.mk file kept).get_error_iff t e

theorem Text.Utf8.decodeFrom_ascii {fuel position : Nat} {octets : List Nat} (done : List Char)
    (ascii : ∀ b ∈ octets, b < 0x80) (enough : octets.length ≤ fuel) :
    decodeFrom fuel position octets done = .ok (done.reverse ++ octets.map Char.ofNat) := by
  induction octets generalizing fuel position done with
  | nil => cases fuel <;> simp [decodeFrom]
  | cons b rest ih =>
    cases fuel with
    | zero => simp at enough
    | succ fuel =>
      have first : lead b = some (b, []) := if_pos (ascii b List.mem_cons_self)
      simp only [decodeFrom, first, tail]
      rw [ih (Char.ofNat b :: done) (fun b' hb' => ascii b' (List.mem_cons_of_mem _ hb'))
        (Nat.le_of_succ_le_succ enough)]
      simp

theorem Text.normalizeNewlines_of_notMem {cs : List Char} (free : '\r' ∉ cs) :
    normalizeNewlines cs = cs := by
  fun_induction normalizeNewlines cs with
  | case1 => rfl
  | case2 rest => simp at free
  | case3 rest => simp at free
  | case4 c rest _ _ ih => rw [ih fun h => free (List.mem_cons_of_mem _ h)]

theorem Json.parse_ones {n : Nat} (long : maxDigits < n) :
    parse (List.replicate n '1') = .error (.digits n) := by
  obtain ⟨k, rfl⟩ : ∃ k, n = k + 1 := ⟨n - 1, by omega⟩
  have whole : wholePart (List.replicate (k + 1) '1') = List.replicate (k + 1) '1' :=
    List.takeWhile_eq_self_iff.mpr fun c hc => by rw [List.eq_of_mem_replicate hc]; decide
  have number (shown : List Char) :
      unsignedNumber false shown (List.replicate (k + 1) '1') = .error (.digits (k + 1)) := by
    have nothing : exponent [] = none := rfl
    rw [unsignedNumber_eq, whole]
    simp [fraction, nothing, long]
  have read (fuel : Nat) (rest : List Char) :
      value (fuel + 1) ('1' :: rest) =
        (unsignedNumber false ('1' :: rest) ('1' :: rest)).map fun r => (.scalar r.1, r.2) := rfl
  have start (rest : List Char) : skipSpace ('1' :: rest) = '1' :: rest := rfl
  rw [List.replicate_succ] at number ⊢
  simp [parse, text, start, read, number, Except.map]

theorem LoadError.escapes_of_ones {t : FileTree} {file : Path} {n : Nat}
    (hread : t.read file = .ok (List.replicate n 0x31)) (json : file.isYaml = false)
    (long : maxDigits < n) : (LoadError.digits n).Escapes t file := by
  have decoded : Text.Utf8.decode (List.replicate n 0x31) = .ok (List.replicate n '1') := by
    have ascii : ∀ b ∈ (List.replicate n (0x31 : UInt8)).map UInt8.toNat, b < 0x80 := by
      intro b hb
      rw [List.map_replicate] at hb
      rw [List.eq_of_mem_replicate hb]
      decide
    rw [Text.Utf8.decode, Text.Utf8.decodeFrom_ascii [] ascii (by simp)]
    simp
  refine .digits hread decoded json ?_
  have free : '\r' ∉ List.replicate n '1' := fun h => by cases List.eq_of_mem_replicate h
  rw [Text.normalizeNewlines_of_notMem free]
  exact Json.parse_ones long

/-- A file that holds a single number. -/
def FileTree.longNumber : FileTree :=
  ⟨[(["number.json"], .file (List.replicate 4301 0x31) 1)], [], [], 1⟩

def Path.longNumber : Path := ⟨.working, ["number.json"]⟩

/-- A number of one digit too many is no document, and neither loading nor a look into a store
answers so. -/
theorem longNumber_escapes :
    FileTree.longNumber.load .longNumber = .error (.digits 4301) ∧
      (LoadError.digits 4301).themeError? = none ∧
      (LoadError.digits 4301).className = "ValueError" ∧
      ((Store.ofPath .longNumber).get .longNumber).result = .error (.digits 4301) := by
  have hread : FileTree.longNumber.read .longNumber = .ok (List.replicate 4301 0x31) := rfl
  have escapes : (LoadError.digits 4301).Escapes .longNumber .longNumber :=
    LoadError.escapes_of_ones hread rfl (by decide)
  have looked := (Store.get_error_iff (.ofPath .longNumber) .longNumber _).mpr ⟨rfl, escapes⟩
  exact ⟨FileTree.load_of_escapes escapes, rfl, rfl, looked⟩

end DesignTokens
