import DesignTokens.Proofs.Numerals

/-!
# How a JSON text is spelled

A text that is read as JSON has a spelling: its words and numbers, the pieces of its strings, and the
gaps between them. Reading a spelling leaf by leaf gives the value of the text, so another reader of
the same spelling can be compared with this one leaf by leaf.
-/

namespace DesignTokens.Json

/-- Space between two tokens. -/
structure Gap where
  chars : List Char
  space : ∀ c ∈ chars, isSpace c

/-- Four hexadecimal digits and their value. -/
structure CodeUnit where
  digits : List Char
  value : Nat
  four : digits.length = 4
  number : hexNumber? digits = some value

/-- A character of a string: as itself, as an escape of one letter, as its code, or as the codes of
its two surrogates. -/
inductive Piece
  | plain (c : Char) (quote : c ≠ '"') (backslash : c ≠ '\\') (printable : ¬c.toNat < 0x20)
  | escape (letter c : Char) (known : simpleEscape? letter = some c)
  | unit (u : CodeUnit)
  | pair (high low : CodeUnit) (first : isHighSurrogate high.value) (second : isLowSurrogate low.value)

namespace Piece

def text : Piece → List Char
  | plain c _ _ _ => [c]
  | escape letter _ _ => ['\\', letter]
  | unit u => '\\' :: 'u' :: u.digits
  | pair high low _ _ => '\\' :: 'u' :: (high.digits ++ '\\' :: 'u' :: low.digits)

def letter : Piece → Letter
  | plain c _ _ _ => c
  | escape _ c _ => c
  | unit u => letterOf u.value
  | pair high low _ _ =>
    .char (Char.ofNat (0x10000 + (high.value - 0xD800) * 0x400 + (low.value - 0xDC00)))

/-- A piece that is the first of two surrogates, on its own. -/
def opens : Piece → Bool
  | .unit u => isHighSurrogate u.value
  | _ => false

/-- A piece that is the second of two surrogates, on its own. -/
def closes : Piece → Bool
  | .unit u => isLowSurrogate u.value
  | _ => false

end Piece

/-- No two pieces are the surrogates of one character. -/
def Parted (ps : List Piece) : Prop := ps.IsChain fun p q => ¬(p.opens ∧ q.closes)

/-- A value without quotes and brackets. -/
inductive Word
  | named (name : String) (v : Value) (known : (name, v) ∈ words)
  | number (n : Numeral)

namespace Word

def text : Word → List Char
  | named name _ _ => name.toList
  | number n => n.text

def value : Word → Value
  | named _ v _ => v
  | number n => .scalar n.value

end Word

/-- The name of a member with its colon, and the space around both. -/
structure Name where
  before : Gap
  pieces : List Piece
  beforeColon : Gap
  behindColon : Gap

mutual

inductive Spelling
  | word (w : Word)
  | quoted (pieces : List Piece)
  | emptyList (inside : Gap)
  | list (items : Items)
  | emptyMap (inside : Gap)
  | map (members : Members)

/-- The items of a list with the bracket that closes it. -/
inductive Items
  | last (before : Gap) (item : Spelling) (behind : Gap)
  | more (before : Gap) (item : Spelling) (behind : Gap) (rest : Items)

/-- The members of a mapping with the brace that closes it. -/
inductive Members
  | last (name : Name) (member : Spelling) (behind : Gap)
  | more (name : Name) (member : Spelling) (behind : Gap) (rest : Members)

end

def quotedText (pieces : List Piece) : List Char := '"' :: (pieces.flatMap Piece.text ++ ['"'])

def Name.text (n : Name) : List Char :=
  n.before.chars ++ (quotedText n.pieces ++ (n.beforeColon.chars ++ ':' :: n.behindColon.chars))

mutual

def Spelling.text : Spelling → List Char
  | .word w => w.text
  | .quoted pieces => quotedText pieces
  | .emptyList inside => '[' :: (inside.chars ++ [']'])
  | .list items => '[' :: items.text
  | .emptyMap inside => '\x7b' :: (inside.chars ++ ['\x7d'])
  | .map members => '\x7b' :: members.text

def Items.text : Items → List Char
  | .last before item behind => before.chars ++ (item.text ++ (behind.chars ++ [']']))
  | .more before item behind rest => before.chars ++ (item.text ++ (behind.chars ++ ',' :: rest.text))

def Members.text : Members → List Char
  | .last name member behind => name.text ++ (member.text ++ (behind.chars ++ ['\x7d']))
  | .more name member behind rest => name.text ++ (member.text ++ (behind.chars ++ ',' :: rest.text))

end

/-- What a reader makes of the leaves of a spelling. -/
structure Leaves where
  word : Word → Value
  string : List Piece → Text

mutual

/-- The value of a spelling whose leaves are read in some way. -/
def Spelling.value (leaves : Leaves) : Spelling → Value
  | .word w => leaves.word w
  | .quoted pieces => .text (leaves.string pieces)
  | .emptyList _ => .list []
  | .list items => .list (items.values leaves)
  | .emptyMap _ => .map []
  | .map members => .map (Entries.putAll [] (members.entries leaves))

def Items.values (leaves : Leaves) : Items → List Value
  | .last _ item _ => [item.value leaves]
  | .more _ item _ rest => item.value leaves :: rest.values leaves

/-- The members in the order of the text, with repeated names. -/
def Members.entries (leaves : Leaves) : Members → Entries
  | .last name member _ => [(.text (leaves.string name.pieces), member.value leaves)]
  | .more name member _ rest =>
    (.text (leaves.string name.pieces), member.value leaves) :: rest.entries leaves

end

/-- The leaves as JSON has them. -/
def leaves : Leaves := ⟨Word.value, fun pieces => ⟨pieces.map Piece.letter⟩⟩

def Spelling.isWord : Spelling → Bool
  | .word _ => true
  | _ => false

mutual

/-- The words in a spelling. -/
def Spelling.words : Spelling → List Word
  | .word w => [w]
  | .quoted _ => []
  | .emptyList _ => []
  | .list items => items.words
  | .emptyMap _ => []
  | .map members => members.words

def Items.words : Items → List Word
  | .last _ item _ => item.words
  | .more _ item _ rest => item.words ++ rest.words

def Members.words : Members → List Word
  | .last _ member _ => member.words
  | .more _ member _ rest => member.words ++ rest.words

end

mutual

/-- The strings in a spelling, the names of members among them. -/
def Spelling.strings : Spelling → List (List Piece)
  | .word _ => []
  | .quoted pieces => [pieces]
  | .emptyList _ => []
  | .list items => items.strings
  | .emptyMap _ => []
  | .map members => members.strings

def Items.strings : Items → List (List Piece)
  | .last _ item _ => item.strings
  | .more _ item _ rest => item.strings ++ rest.strings

def Members.strings : Members → List (List Piece)
  | .last name member _ => name.pieces :: member.strings
  | .more name member _ rest => name.pieces :: (member.strings ++ rest.strings)

end

mutual

/-- The value of a spelling is made of its leaves. -/
theorem Spelling.value_congr {l l' : Leaves} (sp : Spelling)
    (words : ∀ w ∈ sp.words, l.word w = l'.word w)
    (strings : ∀ ps ∈ sp.strings, l.string ps = l'.string ps) : sp.value l = sp.value l' := by
  cases sp with
  | word w => exact words w List.mem_cons_self
  | quoted pieces => exact congrArg Value.text (strings pieces List.mem_cons_self)
  | emptyList _ | emptyMap _ => rfl
  | list items => exact congrArg Value.list (Items.values_congr items words strings)
  | map members =>
    exact congrArg (fun es => Value.map (Entries.putAll [] es)) (Members.entries_congr members words strings)

theorem Items.values_congr {l l' : Leaves} (items : Items)
    (words : ∀ w ∈ items.words, l.word w = l'.word w)
    (strings : ∀ ps ∈ items.strings, l.string ps = l'.string ps) : items.values l = items.values l' := by
  cases items with
  | last _ item _ => rw [Items.values, Items.values, Spelling.value_congr item words strings]
  | more _ item _ rest =>
    obtain ⟨words₁, words₂⟩ := List.forall_mem_append.mp words
    obtain ⟨strings₁, strings₂⟩ := List.forall_mem_append.mp strings
    rw [Items.values, Items.values, Spelling.value_congr item words₁ strings₁,
      Items.values_congr rest words₂ strings₂]

theorem Members.entries_congr {l l' : Leaves} (members : Members)
    (words : ∀ w ∈ members.words, l.word w = l'.word w)
    (strings : ∀ ps ∈ members.strings, l.string ps = l'.string ps) :
    members.entries l = members.entries l' := by
  cases members with
  | last name member _ =>
    obtain ⟨here, strings⟩ := List.forall_mem_cons.mp strings
    rw [Members.entries, Members.entries, here, Spelling.value_congr member words strings]
  | more name member _ rest =>
    obtain ⟨here, strings⟩ := List.forall_mem_cons.mp strings
    obtain ⟨words₁, words₂⟩ := List.forall_mem_append.mp words
    obtain ⟨strings₁, strings₂⟩ := List.forall_mem_append.mp strings
    rw [Members.entries, Members.entries, here, Spelling.value_congr member words₁ strings₁,
      Members.entries_congr rest words₂ strings₂]

end

theorem exists_gap (cs : List Char) : ∃ g : Gap, cs = g.chars ++ skipSpace cs :=
  ⟨⟨cs.takeWhile isSpace, fun _ => List.mem_takeWhile_imp⟩, List.takeWhile_append_dropWhile.symm⟩

theorem exists_codeUnit {cs rest : List Char} {n : Nat} (read : codeUnit? cs = some (n, rest)) :
    ∃ u : CodeUnit, cs = u.digits ++ rest ∧ u.value = n := by
  unfold codeUnit? at read
  split at read
  · rename_i a b c d next behind
    obtain ⟨m, number, h⟩ := Option.map_eq_some_iff.mp read
    obtain ⟨rfl, rfl⟩ := Prod.mk.inj h
    exact ⟨⟨[a, b, c, d], m, rfl, number⟩, rfl, rfl⟩
  · cases read

theorem codeUnit?_digits (u : CodeUnit) {cs : List Char} (more : cs ≠ []) :
    codeUnit? (u.digits ++ cs) = some (u.value, cs) := by
  obtain ⟨next, behind, rfl⟩ := List.exists_cons_of_ne_nil more
  obtain ⟨a, b, c, d, digits⟩ := List.length_eq_four.mp u.four
  have number := u.number
  rw [digits] at number ⊢
  simp [codeUnit?, number]

/-- What stands behind a first surrogate does not complete it. -/
def Alone (p : Piece) (rest : List Char) : Prop :=
  p.opens → ∀ more v after, rest = '\\' :: 'u' :: more → codeUnit? more = some (v, after) →
    isLowSurrogate v = false

theorem Alone.of_not_opens {p : Piece} (closed : p.opens = false) {rest : List Char} :
    Alone p rest :=
  fun opens => absurd (closed.symm.trans opens) Bool.false_ne_true

theorem length_of_codeUnit? {cs rest : List Char} {n : Nat} (read : codeUnit? cs = some (n, rest)) :
    5 ≤ cs.length := by
  unfold codeUnit? at read
  split at read
  · simp
  · cases read

theorem exists_piece_of_code {cs rest : List Char} {c : Letter}
    (read : escapedCodePoint ('u' :: cs) = .ok (c, rest)) :
    ∃ p : Piece, '\\' :: 'u' :: cs = p.text ++ rest ∧ p.letter = c ∧ Alone p rest := by
  unfold escapedCodePoint at read
  rw [List.drop_one, List.tail_cons] at read
  split at read
  · cases read
  · rename_i high behind first
    obtain ⟨u, rfl, rfl⟩ := exists_codeUnit first
    have unit (h : (.ok (letterOf u.value, behind) : Read Letter) = .ok (c, rest))
        (alone : Alone (.unit u) behind) :
        ∃ p : Piece, '\\' :: 'u' :: (u.digits ++ behind) = p.text ++ rest ∧ p.letter = c ∧
          Alone p rest := by
      cases h
      exact ⟨.unit u, rfl, rfl, alone⟩
    split at read
    · rename_i more
      split at read
      · rename_i isHigh
        split at read
        · cases read
        · rename_i low after second
          split at read
          · rename_i isLow
            obtain ⟨v, rfl, rfl⟩ := exists_codeUnit second
            obtain ⟨rfl, rfl⟩ := Prod.mk.inj (Except.ok.inj read)
            rw [Bool.and_eq_true] at isHigh
            exact ⟨.pair u v isHigh.1 isLow, by simp [Piece.text], rfl, nofun⟩
          · rename_i other
            refine unit read ?_
            rintro - _ v after' ⟨⟩ next
            rw [second] at next
            cases next
            exact Bool.eq_false_iff.mpr other
      · rename_i short
        refine unit read ?_
        rintro high _ v after ⟨⟩ next
        have high : isHighSurrogate u.value = true := high
        simp [high, length_of_codeUnit? next] at short
    · rename_i other
      refine unit read ?_
      rintro - more v after rfl
      exact absurd rfl (other more)

theorem Alone.parted {p : Piece} {ps : List Piece} {rest : List Char}
    (alone : Alone p (ps.flatMap Piece.text ++ '"' :: rest)) (parted : Parted ps) : Parted (p :: ps) := by
  cases ps with
  | nil => exact .singleton p
  | cons q ps =>
    refine List.isChain_cons_cons.mpr ⟨?_, parted⟩
    rintro ⟨opens, closes⟩
    cases q with
    | unit v =>
      have more : ps.flatMap Piece.text ++ '"' :: rest ≠ [] := by simp
      have other := alone opens (v.digits ++ (ps.flatMap Piece.text ++ '"' :: rest)) v.value _
        (by simp [Piece.text]) (codeUnit?_digits v more)
      exact absurd closes (Bool.eq_false_iff.mp other)
    | plain _ _ _ _ | escape _ _ _ | pair _ _ _ _ => cases closes

theorem exists_pieces {whole cs rest : List Char} {done out : List Letter} {fuel : Nat}
    (read : stringBody whole fuel cs done = .ok (out, rest)) :
    ∃ ps : List Piece, cs = ps.flatMap Piece.text ++ '"' :: rest ∧
      out = done.reverse ++ ps.map Piece.letter ∧ Parted ps := by
  induction fuel generalizing cs done with
  | zero => cases read
  | succ fuel ih =>
    have step {p : Piece} {after : List Char} (here : cs = p.text ++ after) (alone : Alone p after)
        (read : stringBody whole fuel after (p.letter :: done) = .ok (out, rest)) :
        ∃ ps : List Piece, cs = ps.flatMap Piece.text ++ '"' :: rest ∧
          out = done.reverse ++ ps.map Piece.letter ∧ Parted ps := by
      obtain ⟨ps, rfl, rfl, parted⟩ := ih read
      exact ⟨p :: ps, by simp [here], by simp, alone.parted parted⟩
    unfold stringBody at read
    split at read
    · cases read
    · cases read
      exact ⟨[], rfl, by simp, .nil⟩
    · split at read
      · cases read
      · split at read
        · cases read
        · rename_i c after code
          obtain ⟨p, spelled, rfl, alone⟩ := exists_piece_of_code code
          exact step spelled alone read
      · rename_i letter after _
        split at read
        · cases read
        · rename_i c known
          exact step (p := .escape letter c known) rfl (.of_not_opens rfl) read
    · rename_i c after quote backslash
      split at read
      · cases read
      · rename_i printable
        refine step (p := .plain c ?_ ?_ printable) rfl (.of_not_opens rfl) read
        · exact fun h => quote (h ▸ rfl)
        · exact fun h => backslash (h ▸ rfl)

theorem exists_word {cs rest : List Char} {v : Value} (read : simple cs = .ok (v, rest)) :
    ∃ w : Word, cs = w.text ++ rest ∧ w.value = v := by
  unfold simple at read
  split at read
  · rename_i found named
    cases read
    obtain ⟨w, known, hw⟩ := List.exists_of_findSome?_eq_some named
    obtain ⟨behind, hbehind, h⟩ := Option.map_eq_some_iff.mp hw
    obtain ⟨rfl, rfl⟩ := Prod.mk.inj h
    refine ⟨.named w.1 w.2 known, ?_, rfl⟩
    unfold afterWord at hbehind
    split at hbehind
    · rename_i starts
      obtain ⟨tail, rfl⟩ := List.isPrefixOf_iff_prefix.mp starts
      cases hbehind
      simp [Word.text]
    · cases hbehind
  · split at read
    · obtain ⟨s, hs, rfl⟩ := exists_of_map read
      obtain ⟨n, sign, rfl, rfl⟩ := exists_numeral hs
      exact ⟨.number n, by simp [Word.text, Numeral.text, sign], rfl⟩
    · obtain ⟨s, hs, rfl⟩ := exists_of_map read
      obtain ⟨n, sign, rfl, rfl⟩ := exists_numeral hs
      exact ⟨.number n, by simp [Word.text, Numeral.text, sign], rfl⟩

theorem exists_quoted {cs rest : List Char} {s : Text} (read : string cs = .ok (s, rest)) :
    ∃ ps : List Piece, '"' :: cs = quotedText ps ++ rest ∧ leaves.string ps = s ∧ Parted ps := by
  unfold string at read
  split at read
  · cases read
  · rename_i out after body
    cases read
    obtain ⟨ps, rfl, rfl, parted⟩ := exists_pieces body
    exact ⟨ps, by simp [quotedText], by simp [leaves], parted⟩

/-- Every text that is read as a value is a spelling of it. -/
def ValuesSpelled (fuel : Nat) : Prop :=
  ∀ cs v rest, value fuel cs = .ok (v, rest) →
    ∃ s : Spelling, cs = s.text ++ rest ∧ s.value leaves = v ∧ ∀ ps ∈ s.strings, Parted ps

/-- So are those that are read as members. A gap in front of a member belongs to it. -/
def MembersSpelled (fuel : Nat) : Prop :=
  ∀ cs done es rest, members fuel cs done = .ok (es, rest) → ∀ before : Gap,
    ∃ ms : Members, before.chars ++ cs = ms.text ++ rest ∧ done.putAll (ms.entries leaves) = es ∧
      ∀ ps ∈ ms.strings, Parted ps

def ItemsSpelled (fuel : Nat) : Prop :=
  ∀ cs done vs rest, items fuel cs done = .ok (vs, rest) → ∀ before : Gap,
    ∃ is : Items, before.chars ++ cs = is.text ++ rest ∧ done.reverse ++ is.values leaves = vs ∧
      ∀ ps ∈ is.strings, Parted ps

theorem ValuesSpelled.succ {fuel : Nat} (members : MembersSpelled fuel) (items : ItemsSpelled fuel) :
    ValuesSpelled (fuel + 1) := by
  have nothing (ps : List Piece) (mem : ps ∈ []) : Parted ps := absurd mem List.not_mem_nil
  intro cs v rest read
  cases valueRead read with
  | string inside =>
    obtain ⟨ps, spelled, rfl, parted⟩ := exists_quoted inside
    exact ⟨.quoted ps, spelled, rfl, List.forall_mem_singleton.mpr parted⟩
  | @emptyMap inner _ closed =>
    obtain ⟨g, hg⟩ := exists_gap inner
    refine ⟨.emptyMap g, ?_, rfl, nothing⟩
    rw [hg, closed]
    simp [Spelling.text]
  | @map inner _ _ inside =>
    obtain ⟨g, hg⟩ := exists_gap inner
    obtain ⟨ms, spelled, rfl, parted⟩ := members _ _ _ _ inside g
    refine ⟨.map ms, ?_, rfl, parted⟩
    rw [hg, spelled]
    rfl
  | @emptyList inner _ closed =>
    obtain ⟨g, hg⟩ := exists_gap inner
    refine ⟨.emptyList g, ?_, rfl, nothing⟩
    rw [hg, closed]
    simp [Spelling.text]
  | @list inner _ _ inside =>
    obtain ⟨g, hg⟩ := exists_gap inner
    obtain ⟨is, spelled, rfl, parted⟩ := items _ _ _ _ inside g
    refine ⟨.list is, ?_, rfl, parted⟩
    rw [hg, spelled]
    rfl
  | simple found =>
    obtain ⟨w, spelled, rfl⟩ := exists_word found
    exact ⟨.word w, spelled, rfl, nothing⟩

/-- A member is spelled by its name, its value and a gap. -/
theorem exists_member {fuel : Nat} (values : ValuesSpelled fuel) {inner after : List Char}
    {name : Text} {v : Value} (read : MemberRead fuel inner name v after) (before : Gap) :
    ∃ (n : Name) (member : Spelling) (behind : Gap),
      before.chars ++ '"' :: inner =
        n.text ++ (member.text ++ (behind.chars ++ skipSpace after)) ∧
      leaves.string n.pieces = name ∧ member.value leaves = v ∧ Parted n.pieces ∧
      ∀ ps ∈ member.strings, Parted ps := by
  obtain ⟨behind, tail, named, colon, found⟩ := read
  obtain ⟨ps, spelled, rfl, parted⟩ := exists_quoted named
  obtain ⟨beforeColon, hbehind⟩ := exists_gap behind
  obtain ⟨behindColon, htail⟩ := exists_gap tail
  obtain ⟨member, hmember, rfl, inside⟩ := values _ _ _ found
  obtain ⟨g, hafter⟩ := exists_gap after
  refine ⟨⟨before, ps, beforeColon, behindColon⟩, member, g, ?_, rfl, rfl, parted, inside⟩
  rw [← hafter, spelled, hbehind, colon, htail, hmember]
  simp [Name.text]

theorem MembersSpelled.succ {fuel : Nat} (values : ValuesSpelled fuel)
    (members : MembersSpelled fuel) : MembersSpelled (fuel + 1) := by
  intro cs done es rest read before
  cases membersRead read with
  | last first closed =>
    obtain ⟨n, member, behind, spelled, rfl, rfl, parted, inside⟩ := exists_member values first before
    refine ⟨.last n member behind, ?_, rfl, List.forall_mem_cons.mpr ⟨parted, inside⟩⟩
    rw [spelled, closed]
    simp [Members.text]
  | @more _ _ next _ _ _ _ first comma others =>
    obtain ⟨n, member, behind, spelled, rfl, rfl, parted, inside⟩ := exists_member values first before
    obtain ⟨g, hnext⟩ := exists_gap next
    obtain ⟨ms, hms, rfl, more⟩ := members _ _ _ _ others g
    refine ⟨.more n member behind ms, ?_, rfl,
      List.forall_mem_cons.mpr ⟨parted, List.forall_mem_append.mpr ⟨inside, more⟩⟩⟩
    rw [spelled, comma, hnext, hms]
    simp [Members.text]

theorem ItemsSpelled.succ {fuel : Nat} (values : ValuesSpelled fuel) (items : ItemsSpelled fuel) :
    ItemsSpelled (fuel + 1) := by
  intro cs done vs rest read before
  cases itemsRead read with
  | @last after _ _ first closed =>
    obtain ⟨item, rfl, rfl, inside⟩ := values _ _ _ first
    obtain ⟨behind, hafter⟩ := exists_gap after
    refine ⟨.last before item behind, ?_, by simp [Items.values], inside⟩
    rw [hafter, closed]
    simp [Items.text]
  | @more after next _ _ _ first comma others =>
    obtain ⟨item, rfl, rfl, inside⟩ := values _ _ _ first
    obtain ⟨behind, hafter⟩ := exists_gap after
    obtain ⟨g, hnext⟩ := exists_gap next
    obtain ⟨is, his, rfl, more⟩ := items _ _ _ _ others g
    refine ⟨.more before item behind is, ?_, by simp [Items.values],
      List.forall_mem_append.mpr ⟨inside, more⟩⟩
    rw [hafter, comma, hnext, his]
    simp [Items.text]

/-- The readers read spellings, by induction on the fuel that they share. -/
theorem exists_spelling (fuel : Nat) :
    ValuesSpelled fuel ∧ MembersSpelled fuel ∧ ItemsSpelled fuel := by
  induction fuel with
  | zero =>
    refine ⟨?_, ?_, ?_⟩
    · intro cs v rest read
      cases read
    · intro cs done es rest read
      cases read
    · intro cs done vs rest read
      cases read
  | succ fuel ih =>
    obtain ⟨values, members, items⟩ := ih
    exact ⟨.succ members items, .succ values members, .succ values items⟩

/-- A text that is read as JSON is a spelling of its value with a gap on both sides. -/
theorem exists_spelling_of_parse {cs : List Char} {v : Value} (read : parse cs = .ok v) :
    ∃ (before : Gap) (s : Spelling) (behind : Gap),
      cs = before.chars ++ (s.text ++ behind.chars) ∧ s.value leaves = v ∧ ∀ ps ∈ s.strings, Parted ps := by
  obtain ⟨rest, found, ended⟩ := valueRead_of_parse read
  obtain ⟨before, hbefore⟩ := exists_gap cs
  obtain ⟨behind, hbehind⟩ := exists_gap rest
  obtain ⟨s, hs, rfl, parted⟩ := (exists_spelling _).1 _ _ _ found
  rw [ended, List.append_nil] at hbehind
  exact ⟨before, s, behind, by rw [← hbehind, ← hs, ← hbefore], rfl, parted⟩

end DesignTokens.Json
