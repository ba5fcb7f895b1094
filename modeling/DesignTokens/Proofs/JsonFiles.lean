import DesignTokens.Proofs.JsonRoundTrip
import DesignTokens.Proofs.Loading
import DesignTokens.Proofs.NumberText
import DesignTokens.Proofs.Pieces
import DesignTokens.Proofs.TextEncoding
import DesignTokens.Proofs.Utf8

/-!
# Written values as files

Whatever is read from a JSON text can be written and read again. A written value has no carriage
return in it, so nothing happens to its line ends when a file that holds it is loaded.
-/

namespace DesignTokens

theorem Entries.of_mem_put {es : Entries} {name : Text} {v : Value} {e : Atom × Value}
    (he : e ∈ es.put (.text name) v) : e ∈ es ∨ e = (.text name, v) := by
  unfold put at he
  split at he
  · obtain ⟨e', he', rfl⟩ := List.mem_map.mp he
    split
    · rename_i same
      rw [Atom.sameKey_text, decide_eq_true_eq] at same
      exact Or.inr (by rw [same])
    · exact Or.inl he'
  · simpa using he

theorem Value.OfJson.put {es : Entries} {v : Value} (before : (Value.map es).OfJson)
    (ofJson : v.OfJson) (name : Text) : (Value.map (es.put (.text name) v)).OfJson := by
  cases before with
  | map texts distinct all =>
    refine .map ?_ ?_ ?_
    · intro e he
      rcases Entries.of_mem_put he with he | rfl
      · exact texts e he
      · exact ⟨name, rfl⟩
    · by_cases known : .text name ∈ es.keys
      · obtain ⟨e, he, same⟩ := List.mem_map.mp known
        have found : es.any (fun e => e.1.sameKey (.text name)) = true :=
          List.any_eq_true.mpr ⟨e, he, by rw [same, Atom.sameKey_text, decide_eq_true rfl]⟩
        rw [Entries.keys_put, if_pos found]
        exact distinct
      · rw [Entries.put_of_notMem known, Entries.keys, List.map_append]
        exact List.concat_eq_append ▸ distinct.concat known
    · intro e he
      rcases Entries.of_mem_put he with he | rfl
      · exact all e he
      · exact ofJson

namespace Json

/-- Whatever a reader gives has a property. -/
def Gives {α : Type} (P : α → Prop) (r : Read α) : Prop := ∀ a rest, r = .ok (a, rest) → P a

namespace Gives

variable {α β : Type} {P : α → Prop} {Q : β → Prop}

theorem ok {a : α} (holds : P a) (rest : List Char) : Gives P (.ok (a, rest)) := by
  intro a' rest' read
  cases read
  exact holds

theorem error (e : Refusal) : Gives P (.error e) := by
  intro a rest read
  cases read

theorem map {r : Read α} (gives : Gives P r) {f : α → β} (keeps : ∀ a, P a → Q (f a)) :
    Gives Q (r.map fun p => (f p.1, p.2)) := by
  cases r with
  | error e => exact error e
  | ok p => exact ok (keeps p.1 (gives p.1 p.2 rfl)) p.2

end Gives

theorem gives_simple (cs : List Char) : Gives Value.OfJson (simple cs) := by
  have number (negative : Bool) (shown cs : List Char) :
      Gives Value.OfJson
        ((unsignedNumber negative shown cs).map fun r => (Value.scalar r.1, r.2)) :=
    Gives.map (P := fun _ => True) (fun _ _ _ => trivial) fun s _ => .scalar s
  unfold simple
  split
  · rename_i found read
    obtain ⟨w, known, hw⟩ := List.exists_of_findSome?_eq_some read
    obtain ⟨rest, -, rfl⟩ := Option.map_eq_some_iff.mp hw
    refine Gives.ok ?_ rest
    simp only [words, List.mem_cons, List.not_mem_nil, or_false] at known
    rcases known with rfl | rfl | rfl | rfl | rfl | rfl <;> constructor
  · split
    · exact number true _ _
    · exact number false _ _

/-- The readers of values give values of JSON as far as some fuel goes. -/
structure ReadersGive (fuel : Nat) : Prop where
  value : ∀ cs, Gives Value.OfJson (Json.value fuel cs)
  members : ∀ cs done, (Value.map done).OfJson →
    Gives (fun es => (Value.map es).OfJson) (Json.members fuel cs done)
  items : ∀ cs done, (∀ v ∈ done, Value.OfJson v) →
    Gives (fun vs => ∀ v ∈ vs, Value.OfJson v) (Json.items fuel cs done)

namespace ReadersGive

variable {fuel : Nat}

theorem value_succ (readers : ReadersGive fuel) (cs : List Char) :
    Gives Value.OfJson (Json.value (fuel + 1) cs) := by
  have empty : (Value.map []).OfJson := .map (by simp) List.nodup_nil (by simp)
  intro v rest read
  cases valueRead read with
  | string inside => exact .scalar (.text _)
  | emptyMap closed => exact empty
  | map inside => exact readers.members _ [] empty _ _ inside
  | emptyList closed => exact .list (by simp)
  | list inside => exact .list (readers.items _ [] (by simp) _ _ inside)
  | simple found => exact gives_simple cs v rest found

theorem members_succ (readers : ReadersGive fuel) (cs : List Char) (done : Entries)
    (before : (Value.map done).OfJson) :
    Gives (fun es => (Value.map es).OfJson) (Json.members (fuel + 1) cs done) := by
  have next {inner after : List Char} {name : Text} {v : Value}
      (member : MemberRead fuel inner name v after) : (Value.map (done.put (.text name) v)).OfJson := by
    obtain ⟨_, tail, -, -, found⟩ := member
    exact before.put (readers.value _ v after found) name
  intro es rest read
  cases membersRead read with
  | last member closed => exact next member
  | more member comma others => exact readers.members _ _ (next member) es rest others

theorem items_succ (readers : ReadersGive fuel) (cs : List Char) (done : List Value)
    (before : ∀ v ∈ done, Value.OfJson v) :
    Gives (fun vs => ∀ v ∈ vs, Value.OfJson v) (Json.items (fuel + 1) cs done) := by
  have next {v : Value} {after : List Char} (item : Json.value fuel cs = .ok (v, after)) :
      ∀ u ∈ v :: done, u.OfJson :=
    List.forall_mem_cons.mpr ⟨readers.value cs v after item, before⟩
  intro vs rest read
  cases itemsRead read with
  | last item closed => exact fun u hu => next item u (List.mem_reverse.mp hu)
  | more item comma others => exact readers.items _ _ (next item) vs rest others

end ReadersGive

/-- The readers give values of JSON, by induction on the fuel that they share. -/
theorem readersGive (fuel : Nat) : ReadersGive fuel := by
  induction fuel with
  | zero => exact ⟨fun _ => .error _, fun _ _ _ => .error _, fun _ _ _ => .error _⟩
  | succ fuel ih => exact ⟨ih.value_succ, ih.members_succ, ih.items_succ⟩

theorem ofJson_of_parse {cs : List Char} {v : Value} (read : parse cs = .ok v) : v.OfJson := by
  obtain ⟨rest, found, -⟩ := valueRead_of_parse read
  exact (readersGive _).value _ v rest found

theorem return_notMem_hexPadded : ∀ n < 0x20, '\r' ∉ Text.hexPadded 4 n := by
  decide

theorem return_notMem_escape (c : Char) : '\r' ∉ escape c := by
  unfold escape
  split
  case h_8 _ _ _ plain _ _ _ =>
    split
    · rename_i control
      simp [return_notMem_hexPadded c.toNat control]
    · intro h
      exact plain (List.mem_singleton.mp h).symm
  all_goals decide

theorem return_notMem_escapeLetter (l : Letter) : .char '\r' ∉ escapeLetter l := by
  cases l with
  | char c => simp [escapeLetter, return_notMem_escape c]
  | surrogate n => simp [escapeLetter]

theorem return_notMem_quoted (s : Text) : .char '\r' ∉ quoted s := by
  simp [quoted, return_notMem_escapeLetter]

theorem return_notMem_scalar {s : Scalar} {text : List Letter}
    (written : atom (.scalar s) = .ok text) : Letter.char '\r' ∉ text := by
  cases s with
  | text t => exact Except.ok.inj written ▸ return_notMem_quoted t
  | int n =>
    obtain ⟨shown, hn, rfl⟩ := atom_int written
    rw [List.mem_map_of_injective Letter.char_injective, intText_of_intText? hn]
    exact fun h => absurd (mem_intText h) (by decide)
  | float x =>
    obtain rfl : (script.write x : Text).toList = text := Except.ok.inj written
    rw [Text.toList_ofString, List.mem_map_of_injective Letter.char_injective]
    exact fun h => absurd (Notation.mem_write h) (by decide)

theorem return_notMem_newline (level : Nat) : .char '\r' ∉ newline level := by
  simp [newline]

theorem return_notMem_bracketed {level : Nat} {opening closing : Letter} {texts : List (List Letter)}
    (opens : opening ≠ .char '\r') (closes : closing ≠ .char '\r')
    (free : ∀ text ∈ texts, .char '\r' ∉ text) :
    .char '\r' ∉ bracketed level opening closing texts := by
  intro h
  cases texts with
  | nil => simp [bracketed, opens.symm, closes.symm] at h
  | cons text texts =>
    simp only [bracketed, List.mem_cons, List.mem_append, List.not_mem_nil, or_false] at h
    rcases h with opened | ((front | inside) | back) | closed
    · exact opens opened.symm
    · exact return_notMem_newline _ front
    · rcases Text.mem_intercalate inside with separator | ⟨part, known, hc⟩
      · rcases List.mem_cons.mp separator with comma | blank
        · exact absurd comma (by decide)
        · exact return_notMem_newline _ blank
      · exact free part known hc
    · exact return_notMem_newline _ back
    · exact closes closed.symm

/-- A written value has no carriage return in it. -/
theorem return_notMem_writeAt {v : Value} (ofJson : v.OfJson) {level : Nat} {text : List Letter}
    (written : writeAt level v = .ok text) : .char '\r' ∉ text := by
  induction ofJson generalizing level text with
  | null =>
    cases written
    decide
  | bool b => cases b <;> cases written <;> decide
  | scalar s => exact return_notMem_scalar (by rwa [writeAt] at written)
  | @list vs all ih =>
    obtain ⟨texts, parts, rfl⟩ := writeAt_list written
    have free := forall₂_writeItems (P := fun text _ => .char '\r' ∉ text ∧ True)
      (fun v hv text inside => ⟨ih v hv inside, trivial⟩) parts
    exact return_notMem_bracketed (by decide) (by decide) ((List.forall₂_and_left _ _).mp free).1
  | @map es names distinct all ih =>
    obtain ⟨texts, parts, rfl⟩ := writeAt_map written
    have free := forall₂_writeMembers (P := fun text _ => .char '\r' ∉ text)
      (fun e he text inside => ih e he inside) parts
    have each : List.Forall₂ (fun text _ => .char '\r' ∉ text ∧ True) texts es := by
      refine free.imp fun text e => ?_
      rintro ⟨he, shown, inside, hkey, value, rfl⟩
      obtain ⟨name, hname⟩ := names e he
      rw [hname] at hkey
      cases hkey
      simp [return_notMem_quoted, value]
    exact return_notMem_bracketed (by decide) (by decide) ((List.forall₂_and_left _ _).mp each).1

/-- Characters that were written for a value of JSON are read as that value. -/
theorem parse_write {v : Value} (ofJson : v.OfJson) {written : List Char}
    (hwritten : write v = .ok (written.map .char)) : parse written = .ok v := by
  have back := readAs_writeAt ofJson hwritten (Text.Whole.map_char written)
  rw [chars_map_char] at back
  obtain ⟨c, more, rfl, plain, -, -, mark⟩ := back.starts
  have start : skipSpace (c :: more) = c :: more :=
    List.dropWhile_cons_of_neg (by simp [plain])
  have read := back.read (2 * (c :: more).length + 2) [] (by omega) (by simp [Follows])
  rw [List.append_nil] at read
  have whole : text (c :: more) = .ok v := by
    unfold text
    split
    · rename_i same
      exact absurd (List.cons.inj same).1 mark
    · rw [start, read]
      rfl
  rw [parse, whole]

end Json

theorem parseAs_json {file : Path} (json : file.isYaml = false) {cs : List Char} {v : Value} :
    parseAs file cs = .ok v ↔ Json.parse cs = .ok v := by
  rw [parseAs, json, if_neg Bool.false_ne_true]
  cases Json.parse cs with
  | ok v' => simp
  | error fault => cases fault <;> simp

theorem parseDocument_json {file : Path} (json : file.isYaml = false) {octets : List UInt8}
    {doc : Document} : parseDocument file octets = .ok doc ↔
      ∃ cs, Text.Utf8.decode octets = .ok cs ∧
        Json.parse (Text.normalizeNewlines cs) = .ok (.map doc) := by
  rw [parseDocument]
  cases Text.Utf8.decode octets with
  | error fault => simp
  | ok cs =>
    simp only [← parseAs_json json, Except.ok.injEq, exists_eq_left']
    cases parseAs file (Text.normalizeNewlines cs) with
    | error e => simp
    | ok v => cases v <;> simp

/-- A document that was loaded from a JSON file is a value of JSON. -/
theorem FileTree.ofJson_load {t : FileTree} {file : Path} {doc : Document}
    (json : file.isYaml = false) (loaded : t.load file = .ok doc) : (Value.map doc).OfJson := by
  obtain ⟨octets, -, parsed⟩ := (t.load_eq_ok_iff file doc).mp loaded
  obtain ⟨cs, -, read⟩ := (parseDocument_json json).mp parsed
  exact Json.ofJson_of_parse read

/-- A JSON file that holds the octets of a written mapping is loaded as that mapping. -/
theorem FileTree.load_of_written {t : FileTree} {file : Path} {es : Entries} {written : Text}
    {octets : List UInt8} (ofJson : (Value.map es).OfJson)
    (hwritten : Json.write (.map es) = .ok written.toList) (json : file.isYaml = false)
    (encoded : written.encode = .ok octets) (stored : t.read file = .ok octets) :
    t.load file = .ok es := by
  obtain ⟨cs, rfl, rfl⟩ := Text.encode_eq_ok_iff.mp encoded
  have free : '\r' ∉ cs := fun h =>
    Json.return_notMem_writeAt ofJson hwritten (List.mem_map_of_mem h)
  have ends : Text.normalizeNewlines cs = cs := Text.normalizeNewlines_of_notMem free
  refine (t.load_eq_ok_iff file es).mpr ⟨_, stored, (parseDocument_json json).mpr ?_⟩
  refine ⟨cs, Text.Utf8.decode_encode cs, ?_⟩
  rw [ends]
  exact Json.parse_write ofJson hwritten

end DesignTokens
